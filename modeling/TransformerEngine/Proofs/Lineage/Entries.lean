import TransformerEngine.Lineage.Basic

/-!
# Entries under changes

What `inherit`, `report` and `prune` do to the three parts of an entry, read through
the questions that a lineage answers.

The transforms applied along a line are read as a set: `mem_applied_inherit` says that a
child gets those of its parent and the extra ones beside its own, and that nobody else
gets any. Reports are handed down only to a child without an entry
(`diagnostics_inherit_of_new`); a child that has one keeps what it has
(`diagnostics_inherit_of_entry`). The same goes for the origin
(`originRoots_inheritedEntry`).
-/

namespace TransformerEngine

namespace Lineage

variable {lineage : Lineage} {parent child program : Program}
variable {extra : List TransformIdentity} {id : ProgramId} {i : TransformIdentity}

/-! ### Entries that are there already -/

theorem applied_of_find? {entry : LineageEntry} (h : lineage.find? id = some entry) :
    lineage.applied id = entry.applied := by
  rw [applied, h]; rfl

theorem diagnostics_of_find? {entry : LineageEntry} (h : lineage.find? id = some entry) :
    lineage.diagnostics id = entry.diagnostics := by
  rw [diagnostics, h]; rfl

/-- Whoever has been through a transform has an entry. -/
theorem exists_entry_of_mem_applied (h : i ∈ lineage.applied id) :
    ∃ entry, lineage.find? id = some entry := by
  cases hf : lineage.find? id with
  | some entry => exact ⟨entry, rfl⟩
  | none => rw [applied, hf] at h; exact absurd h (by simp)

theorem diagnostics_of_find?_none (h : lineage.find? id = none) :
    lineage.diagnostics id = [] := by
  rw [diagnostics, h]; rfl

@[simp] theorem applied_entryOf : (lineage.entryOf program).applied = lineage.applied program.id := by
  unfold entryOf applied
  cases lineage.find? program.id <;> rfl

@[simp] theorem diagnostics_entryOf :
    (lineage.entryOf program).diagnostics = lineage.diagnostics program.id := by
  unfold entryOf diagnostics
  cases lineage.find? program.id <;> rfl

theorem isApplied_iff : lineage.isApplied id i = true ↔ i ∈ lineage.applied id := by
  rw [isApplied, decide_eq_true_iff]

/-- Two lineages that agree on an entry agree on the transforms of that line. -/
theorem applied_congr {other : Lineage} (h : other.find? id = lineage.find? id) :
    other.applied id = lineage.applied id := by
  rw [applied, applied, h]

theorem diagnostics_congr {other : Lineage} (h : other.find? id = lineage.find? id) :
    other.diagnostics id = lineage.diagnostics id := by
  rw [diagnostics, diagnostics, h]

theorem entryOf_congr {other : Lineage}
    (h : other.find? program.id = lineage.find? program.id) :
    other.entryOf program = lineage.entryOf program := by
  rw [entryOf, entryOf, h]

/-! ### Inheriting -/

theorem find?_inherit_of_ne (h : id ≠ child.id) :
    (lineage.inherit parent child extra).find? id = lineage.find? id := by
  rw [find?_inherit, if_neg h.symm]

theorem find?_inherit_self :
    (lineage.inherit parent child extra).find? child.id =
      some (lineage.inheritedEntry parent child extra) := by
  rw [find?_inherit, if_pos rfl]

/-- What a child inherits depends on the entries of the two programs only. -/
theorem inheritedEntry_congr {other : Lineage}
    (hparent : other.find? parent.id = lineage.find? parent.id)
    (hchild : other.find? child.id = lineage.find? child.id) :
    other.inheritedEntry parent child extra = lineage.inheritedEntry parent child extra := by
  simp only [inheritedEntry, entryOf_congr hparent, entryOf_congr hchild, hchild]

theorem applied_inheritedEntry :
    (lineage.inheritedEntry parent child extra).applied =
      unite (lineage.applied child.id) (unite (lineage.applied parent.id) extra) := by
  -- the branches differ in the reports and the origin only
  unfold inheritedEntry
  simp only
  split <;> simp

theorem mem_applied_inherit :
    i ∈ (lineage.inherit parent child extra).applied id ↔
      i ∈ lineage.applied id ∨
        id = child.id ∧ (i ∈ lineage.applied parent.id ∨ i ∈ extra) := by
  by_cases h : id = child.id
  · subst h
    rw [applied_of_find? find?_inherit_self, applied_inheritedEntry, mem_unite, mem_unite]
    simp
  · -- nobody else's entry is touched
    rw [applied_congr (find?_inherit_of_ne h)]
    simp [h]

/-- An entry that is there keeps its reports. -/
theorem diagnostics_inherit_of_entry {entry : LineageEntry}
    (h : lineage.find? child.id = some entry) :
    (lineage.inherit parent child extra).diagnostics id = lineage.diagnostics id := by
  by_cases hid : id = child.id
  · subst hid
    rw [diagnostics_of_find? find?_inherit_self, inheritedEntry, if_pos (.inl (by rw [h]; rfl))]
    exact diagnostics_entryOf
  · exact diagnostics_congr (find?_inherit_of_ne hid)

theorem diagnostics_inherit_self :
    (lineage.inherit program program extra).diagnostics id = lineage.diagnostics id := by
  by_cases hid : id = program.id
  · subst hid
    rw [diagnostics_of_find? find?_inherit_self, inheritedEntry, if_pos (.inr rfl)]
    exact diagnostics_entryOf
  · exact diagnostics_congr (find?_inherit_of_ne hid)

/-- A child without an entry starts with the reports of its parent. -/
theorem diagnostics_inherit_of_new (h : lineage.find? child.id = none)
    (hne : child.id ≠ parent.id) :
    (lineage.inherit parent child extra).diagnostics child.id =
      lineage.diagnostics parent.id := by
  -- the child is neither its own parent nor known already
  rw [diagnostics_of_find? find?_inherit_self, inheritedEntry, if_neg (by simp [h, hne])]
  simp [diagnostics_of_find?_none h]

/-! ### Reporting -/

theorem find?_report_of_ne {d : Diagnostic} (h : id ≠ program.id) :
    (lineage.report program d).find? id = lineage.find? id := by
  rw [find?_report, if_neg h.symm]

@[simp] theorem applied_report {d : Diagnostic} :
    (lineage.report program d).applied id = lineage.applied id := by
  by_cases h : id = program.id
  · subst h
    unfold applied
    rw [find?_report, if_pos rfl]
    exact applied_entryOf
  · exact applied_congr (find?_report_of_ne h)

@[simp] theorem diagnostics_report {d : Diagnostic} :
    (lineage.report program d).diagnostics program.id = lineage.diagnostics program.id ++ [d] := by
  unfold diagnostics
  rw [find?_report, if_pos rfl]
  exact congrArg (· ++ [d]) diagnostics_entryOf

-- `reportAll` is one `report` after another, so the lemmas above carry over by induction.

theorem find?_reportAll_of_ne {ds : List Diagnostic} (h : id ≠ program.id) :
    (lineage.reportAll program ds).find? id = lineage.find? id := by
  induction ds generalizing lineage with
  | nil => rfl
  | cons d ds ih => exact (@ih (lineage.report program d)).trans (find?_report_of_ne h)

@[simp] theorem applied_reportAll {ds : List Diagnostic} :
    (lineage.reportAll program ds).applied id = lineage.applied id := by
  induction ds generalizing lineage with
  | nil => rfl
  | cons d ds ih => exact (@ih (lineage.report program d)).trans applied_report

@[simp] theorem diagnostics_reportAll {ds : List Diagnostic} :
    (lineage.reportAll program ds).diagnostics program.id =
      lineage.diagnostics program.id ++ ds := by
  induction ds generalizing lineage with
  | nil => exact (List.append_nil _).symm
  | cons d ds ih =>
    calc ((lineage.report program d).reportAll program ds).diagnostics program.id
        = (lineage.report program d).diagnostics program.id ++ ds := ih
      _ = lineage.diagnostics program.id ++ [d] ++ ds := by rw [diagnostics_report]
      _ = lineage.diagnostics program.id ++ d :: ds := List.append_cons .. |>.symm

theorem find?_report_of_entry {d : Diagnostic} {entry : LineageEntry}
    (h : lineage.find? program.id = some entry) :
    (lineage.report program d).find? program.id =
      some { entry with diagnostics := entry.diagnostics ++ [d] } := by
  rw [find?_report, if_pos rfl, entryOf, h]
  rfl

/-- Reports are all that is added to an entry. -/
theorem find?_reportAll_of_entry {ds : List Diagnostic} {entry : LineageEntry}
    (h : lineage.find? program.id = some entry) :
    (lineage.reportAll program ds).find? program.id =
      some { entry with diagnostics := entry.diagnostics ++ ds } := by
  induction ds generalizing lineage entry with
  | nil => rw [List.append_nil]; exact h
  | cons d ds ih =>
    refine (@ih (lineage.report program d) _ (find?_report_of_entry h)).trans ?_
    rw [List.append_assoc]
    rfl

/-! ### Origins -/

theorem originRoots_congr {other : Lineage}
    (h : other.find? program.id = lineage.find? program.id) :
    other.originRoots program = lineage.originRoots program :=
  congrArg LineageEntry.originRoots (entryOf_congr h)

theorem originRoots_of_find? {entry : LineageEntry} (h : lineage.find? program.id = some entry) :
    lineage.originRoots program = entry.originRoots := by
  rw [originRoots, entryOf, h]
  rfl

/-- A child has its own origin if it has one already or is its own parent, and that of its
parent otherwise. -/
theorem originRoots_inheritedEntry :
    (lineage.inheritedEntry parent child extra).originRoots =
      if (lineage.find? child.id).isSome ∨ child.id = parent.id then lineage.originRoots child
      else lineage.originRoots parent := by
  unfold inheritedEntry
  simp only
  split <;> rfl

/-! ### Forgetting -/

/-- A program that is alive keeps the transforms of its line. -/
theorem applied_prune {live : ProgramId → Bool} (h : live id = true) :
    (lineage.prune live).1.applied id = lineage.applied id :=
  applied_congr (by rw [find?_prune, if_pos h])

end Lineage

end TransformerEngine
