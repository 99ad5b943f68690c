import TransformerEngine.Proofs.Lineage.Forgetting

/-!
# What a living program keeps

As long as a program is there its entry only gains (`Population.run_extends`): the origin
stays as it was recorded first, no transform is taken back, and reports are added behind
those that are there. Inheriting and reporting never replace an entry by a lesser one, and
forgetting does not touch the entries of living programs.

That a program which is there at two times was there in between is because one that is gone
stays so (`Population.follows_of_run`).
-/

namespace TransformerEngine

/-! ### Entries that gain -/

/-- The later entry has all that the earlier one has: the same origin, the same transforms
and perhaps more, and the same reports with perhaps more of them behind. -/
structure LineageEntry.Extends (before after : LineageEntry) : Prop where
  originRoots : after.originRoots = before.originRoots
  applied : before.applied ⊆ after.applied
  diagnostics : before.diagnostics <+: after.diagnostics

namespace LineageEntry.Extends

variable {a b c entry : LineageEntry}

theorem refl (entry : LineageEntry) : entry.Extends entry :=
  ⟨rfl, List.Subset.refl _, List.prefix_refl _⟩

theorem trans (first : a.Extends b) (last : b.Extends c) : a.Extends c where
  originRoots := last.originRoots.trans first.originRoots
  applied := List.Subset.trans first.applied last.applied
  diagnostics := first.diagnostics.trans last.diagnostics

end LineageEntry.Extends

namespace Lineage

variable {lineage : Lineage} {id : ProgramId} {entry : LineageEntry}

/-- Inheriting adds to the entry of the child, and leaves all others as they are. -/
theorem extends_inherit (h : lineage.find? id = some entry) (parent child : Program)
    (extra : List TransformIdentity) :
    ∃ later, (lineage.inherit parent child extra).find? id = some later ∧
      entry.Extends later := by
  by_cases hid : id = child.id
  · subst hid
    refine ⟨_, find?_inherit_self, ?_⟩
    -- an entry that is there keeps its origin and its reports
    have hown : lineage.entryOf child = entry := by rw [entryOf, h, Option.getD_some]
    rw [inheritedEntry, if_pos (.inl (by rw [h]; rfl)), hown]
    exact ⟨rfl, fun _ hi => mem_unite.mpr (.inl hi), List.prefix_refl _⟩
  · exact ⟨entry, (find?_inherit_of_ne hid).trans h, .refl entry⟩

/-- A report is added at the end of one entry. -/
theorem extends_report (h : lineage.find? id = some entry) (program : Program) (d : Diagnostic) :
    ∃ later, (lineage.report program d).find? id = some later ∧ entry.Extends later := by
  by_cases hid : id = program.id
  · subst hid
    exact ⟨_, find?_report_of_entry h, rfl, List.Subset.refl _, List.prefix_append _ _⟩
  · exact ⟨entry, (find?_report_of_ne hid).trans h, .refl entry⟩

end Lineage

namespace Population

variable {now next later : Population} {change : Change} {changes : List Change}

/-! ### From changes to courses of changes -/

/-- **From changes to courses.** What every change keeps, a course of changes keeps. -/
theorem run_invariant {P : Population → Prop}
    (keeps : ∀ {now next change}, P now → now.step change = some next → P next)
    (h : P now) (hrun : now.run changes = some later) : P later := by
  induction changes generalizing now with
  | nil => exact Option.some.inj hrun ▸ h
  | cons change rest ih =>
    obtain ⟨middle, hstep, hrest⟩ := Option.bind_eq_some_iff.mp hrun
    exact ih (keeps h hstep) hrest

theorem Numbered.run (h : now.Numbered) (hrun : now.run changes = some later) : later.Numbered :=
  run_invariant (fun hnow hstep => hnow.step hstep) h hrun

/-- What `later` came to from `now`: numbers were given out upwards, and whoever is there and
had a number then was there then. -/
structure Follows (now later : Population) : Prop where
  nextId : now.nextId.number ≤ later.nextId.number
  alive : ∀ p ∈ later.alive, p.id.number < now.nextId.number → p ∈ now.alive

/-- Nobody came, and the same numbers are left. -/
theorem Follows.of_alive_subset (hnext : later.nextId = now.nextId)
    (halive : later.alive ⊆ now.alive) : now.Follows later :=
  ⟨Nat.le_of_eq (congrArg ProgramId.number hnext.symm), fun _ hp _ => halive hp⟩

theorem Follows.trans {a b c : Population} (first : a.Follows b) (last : b.Follows c) :
    a.Follows c where
  nextId := Nat.le_trans first.nextId last.nextId
  alive p hp hmade :=
    first.alive p (last.alive p hp (Nat.lt_of_lt_of_le hmade first.nextId)) hmade

theorem follows_of_step (hstep : now.step change = some next) : now.Follows next := by
  cases change with
  | make roots options host =>
    obtain rfl := Option.some.inj hstep
    refine ⟨Nat.le_succ _, fun p hp hmade => (List.mem_append.mp hp).resolve_right fun hnew => ?_⟩
    -- the program made just now has the number that was next
    rw [List.mem_singleton.mp hnew] at hmade
    exact Nat.lt_irrefl _ hmade
  | drop program =>
    obtain ⟨-, rfl⟩ := step_drop.mp hstep
    exact .of_alive_subset rfl List.filter_sublist.subset
  | inherit parent child extra =>
    obtain ⟨-, rfl⟩ := step_inherit.mp hstep
    exact .of_alive_subset rfl (List.Subset.refl _)
  | report program d =>
    obtain ⟨-, rfl⟩ := step_report.mp hstep
    exact .of_alive_subset rfl (List.Subset.refl _)
  | prune =>
    obtain rfl := Option.some.inj hstep
    exact .of_alive_subset rfl (List.Subset.refl _)

/-- **Who is gone stays so.** -/
theorem follows_of_run (hrun : now.run changes = some later) : now.Follows later :=
  run_invariant (fun hnow hstep => hnow.trans (follows_of_step hstep))
    (.of_alive_subset rfl (List.Subset.refl _)) hrun

/-! ### What is kept -/

/-- A change leaves the entry of a program that is there as it is, or adds to it. -/
theorem step_extends {p : Program} {entry : LineageEntry} (hp : p ∈ now.alive)
    (hentry : now.lineage.find? p.id = some entry) (hstep : now.step change = some next) :
    ∃ after, next.lineage.find? p.id = some after ∧ entry.Extends after := by
  cases change with
  | make roots options host =>
    obtain rfl := Option.some.inj hstep
    exact ⟨entry, hentry, .refl entry⟩
  | drop program =>
    obtain ⟨-, rfl⟩ := step_drop.mp hstep
    exact ⟨entry, hentry, .refl entry⟩
  | inherit parent child extra =>
    obtain ⟨-, rfl⟩ := step_inherit.mp hstep
    exact Lineage.extends_inherit hentry parent child extra
  | report program d =>
    obtain ⟨-, rfl⟩ := step_report.mp hstep
    exact Lineage.extends_report hentry program d
  | prune =>
    obtain rfl := Option.some.inj hstep
    refine ⟨entry, ?_, .refl entry⟩
    rw [Lineage.find?_prune, if_pos (lives_of_mem hp), hentry]

/-- **An entry only gains** while its program is there. -/
theorem run_extends (h : now.Numbered) {p : Program} {entry : LineageEntry} (hp : p ∈ now.alive)
    (hlater : p ∈ later.alive) (hentry : now.lineage.find? p.id = some entry)
    (hrun : now.run changes = some later) :
    ∃ after, later.lineage.find? p.id = some after ∧ entry.Extends after := by
  induction changes generalizing now entry with
  | nil =>
    obtain rfl := Option.some.inj hrun
    exact ⟨entry, hentry, .refl entry⟩
  | cons change rest ih =>
    obtain ⟨middle, hstep, hrest⟩ := Option.bind_eq_some_iff.mp hrun
    -- the program is there at the end, so it is there now
    have hmade : p.id.number < middle.nextId.number :=
      Nat.lt_of_lt_of_le (h.made p hp) (follows_of_step hstep).nextId
    have hmiddle : p ∈ middle.alive := (follows_of_run hrest).alive p hlater hmade
    obtain ⟨between, hbetween, hfirst⟩ := step_extends hp hentry hstep
    obtain ⟨after, hafter, hlast⟩ := ih (h.step hstep) hmiddle hbetween hrest
    exact ⟨after, hafter, hfirst.trans hlast⟩

/-- The transforms applied along each line are a list without repetition. -/
def AppliedOnce (now : Population) : Prop := ∀ id, (now.lineage.applied id).Nodup

theorem AppliedOnce.step (h : now.AppliedOnce) (hstep : now.step change = some next) :
    next.AppliedOnce := by
  intro id
  cases change with
  | make roots options host =>
    obtain rfl := Option.some.inj hstep
    exact h id
  | drop program =>
    obtain ⟨-, rfl⟩ := step_drop.mp hstep
    exact h id
  | inherit parent child extra =>
    obtain ⟨-, rfl⟩ := step_inherit.mp hstep
    by_cases hid : id = child.id
    · subst hid
      rw [Lineage.applied_of_find? Lineage.find?_inherit_self, Lineage.applied_inheritedEntry]
      exact nodup_unite (h child.id)
    · rw [Lineage.applied_congr (Lineage.find?_inherit_of_ne hid)]
      exact h id
  | report program d =>
    obtain ⟨-, rfl⟩ := step_report.mp hstep
    rw [Lineage.applied_report]
    exact h id
  | prune =>
    obtain rfl := Option.some.inj hstep
    by_cases hlives : now.lives id = true
    · rw [Lineage.applied_prune hlives]
      exact h id
    · -- of a program that is gone nothing is left
      rw [Lineage.applied, Lineage.find?_prune, if_neg hlives]
      exact List.nodup_nil

end Population

end TransformerEngine
