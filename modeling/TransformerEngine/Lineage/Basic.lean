import TransformerEngine.Compiler.Program
import TransformerEngine.Plugin.Kind

/-!
# Lineages of programs

Program transforms replace programs by programs. A `Lineage` keeps beside each program
what its line of descent has been through: the root names that the line started from,
the transforms that were applied along it, and what they reported. Programs are known by
number, so the programs themselves need not know of it.

`inherit` makes one program the child of another, `report` adds a diagnostic, and `prune`
forgets the programs that are gone. What each of them does to the entry of any program is
said by `find?_inherit`, `find?_report` and `find?_prune`.
-/

namespace TransformerEngine

/-- `xs` with the members of `ys` that it lacks, in order, each once. -/
def unite {α : Type} [DecidableEq α] (xs : List α) : List α → List α
  | [] => xs
  | y :: ys => if y ∈ xs then unite xs ys else unite (xs ++ [y]) ys

theorem mem_unite {α : Type} [DecidableEq α] {xs ys : List α} {a : α} :
    a ∈ unite xs ys ↔ a ∈ xs ∨ a ∈ ys := by
  induction ys generalizing xs with
  | nil => simp [unite]
  | cons y ys ih =>
    by_cases h : y ∈ xs
    · rw [unite, if_pos h, ih]
      constructor
      · rintro (hx | hy)
        · exact .inl hx
        · exact .inr (List.mem_cons_of_mem _ hy)
      · rintro (hx | hy)
        · exact .inl hx
        · rcases List.mem_cons.mp hy with rfl | hy
          · exact .inl h
          · exact .inr hy
    · rw [unite, if_neg h, ih]
      simp [or_assoc]

theorem nodup_unite {α : Type} [DecidableEq α] {xs ys : List α} (h : xs.Nodup) :
    (unite xs ys).Nodup := by
  induction ys generalizing xs with
  | nil => exact h
  | cons y ys ih =>
    by_cases hy : y ∈ xs
    · rw [unite, if_pos hy]; exact ih h
    · rw [unite, if_neg hy]
      refine ih (List.nodup_append.mpr ⟨h, by simp, ?_⟩)
      intro a ha b hb hab
      exact hy (List.mem_singleton.mp hb ▸ hab ▸ ha)

/-- What the line of descent of one program has been through. -/
structure LineageEntry where
  /-- The root names of the program that the line started from. -/
  originRoots : List String
  /-- The transforms applied along the line, each once. -/
  applied : List TransformIdentity := []
  /-- What transforms reported along the line, in order. -/
  diagnostics : List Diagnostic := []
deriving DecidableEq

/-- The entry of a program that starts a line of its own. -/
def LineageEntry.start (program : Program) : LineageEntry := { originRoots := program.rootNames }

/-- The lineages of programs, by program. -/
structure Lineage where
  /-- The entries of the programs that have one. -/
  entries : Table ProgramId LineageEntry := Table.empty
deriving DecidableEq

namespace Lineage

/-- The lineage of no program. -/
def empty : Lineage := {}

instance : Inhabited Lineage := ⟨empty⟩

/-! ### Questions -/

/-- The entry of a program. -/
def find? (lineage : Lineage) (id : ProgramId) : Option LineageEntry := lineage.entries.find? id

/-- The transforms applied along a program's line. -/
def applied (lineage : Lineage) (id : ProgramId) : List TransformIdentity :=
  ((lineage.find? id).map LineageEntry.applied).getD []

/-- Whether a transform was applied along a program's line. -/
def isApplied (lineage : Lineage) (id : ProgramId) (identity : TransformIdentity) : Bool :=
  identity ∈ lineage.applied id

/-- How many transforms were applied along a program's line. -/
def appliedCount (lineage : Lineage) (id : ProgramId) : Nat := (lineage.applied id).length

/-- What transforms reported along a program's line. -/
def diagnostics (lineage : Lineage) (id : ProgramId) : List Diagnostic :=
  ((lineage.find? id).map LineageEntry.diagnostics).getD []

/-- The entry of a program, or the one it would start with. -/
def entryOf (lineage : Lineage) (program : Program) : LineageEntry :=
  (lineage.find? program.id).getD (.start program)

/-- The root names that a program's line started from. -/
def originRoots (lineage : Lineage) (program : Program) : List String :=
  (lineage.entryOf program).originRoots

/-- How many programs have an entry. -/
def size (lineage : Lineage) : Nat := lineage.entries.size

/-- Whether no program has an entry. -/
def isEmpty (lineage : Lineage) : Bool := lineage.entries.entries.isEmpty

/-! ### Changes -/

/-- The lineage with another entry for a program. -/
def set (lineage : Lineage) (id : ProgramId) (entry : LineageEntry) : Lineage :=
  ⟨lineage.entries.insert id entry⟩

/-- The entry of `child` after it inherited from `parent`. Origin and reports are handed
down once, when a child that is not its own parent gets its first entry; an entry that is
there already keeps both. -/
def inheritedEntry (lineage : Lineage) (parent child : Program)
    (extra : List TransformIdentity) : LineageEntry :=
  let source := lineage.entryOf parent
  let own := lineage.entryOf child
  let passed := unite source.applied extra
  if (lineage.find? child.id).isSome ∨ child.id = parent.id then
    { own with applied := unite own.applied passed }
  else
    { originRoots := source.originRoots
      applied := unite own.applied passed
      diagnostics := own.diagnostics ++ source.diagnostics }

/-- Make `child` a child of `parent`: it has been through all that its parent has been
through, and through `extra`. -/
def inherit (lineage : Lineage) (parent child : Program) (extra : List TransformIdentity) :
    Lineage :=
  lineage.set child.id (lineage.inheritedEntry parent child extra)

/-- Add a report to a program's line. -/
def report (lineage : Lineage) (program : Program) (d : Diagnostic) : Lineage :=
  let entry := lineage.entryOf program
  lineage.set program.id { entry with diagnostics := entry.diagnostics ++ [d] }

/-- Add reports to a program's line, in order. -/
def reportAll (lineage : Lineage) (program : Program) (ds : List Diagnostic) : Lineage :=
  ds.foldl (fun l d => l.report program d) lineage

/-- Forget the programs that are not `live`: what is left, and how many were forgotten. -/
def prune (lineage : Lineage) (live : ProgramId → Bool) : Lineage × Nat :=
  let kept := lineage.entries.filter fun id _ => live id
  (⟨kept⟩, lineage.entries.size - kept.size)

/-! ### What the changes do to an entry -/

@[simp] theorem find?_set (lineage : Lineage) (id id' : ProgramId) (entry : LineageEntry) :
    (lineage.set id entry).find? id' = if id = id' then some entry else lineage.find? id' :=
  Table.find?_insert _ _ _ _

theorem find?_inherit (lineage : Lineage) (parent child : Program)
    (extra : List TransformIdentity) (id : ProgramId) :
    (lineage.inherit parent child extra).find? id =
      if child.id = id then some (lineage.inheritedEntry parent child extra)
      else lineage.find? id :=
  find?_set _ _ _ _

theorem find?_report (lineage : Lineage) (program : Program) (d : Diagnostic) (id : ProgramId) :
    (lineage.report program d).find? id =
      if program.id = id then
        some { lineage.entryOf program with
          diagnostics := (lineage.entryOf program).diagnostics ++ [d] }
      else lineage.find? id :=
  find?_set _ _ _ _

theorem find?_prune (lineage : Lineage) (live : ProgramId → Bool) (id : ProgramId) :
    (lineage.prune live).1.find? id = if live id then lineage.find? id else none := by
  unfold prune find? Table.filter Table.find?
  simp only
  induction lineage.entries.entries with
  | nil => simp [Entries.find?]
  | cons e rest ih =>
    obtain ⟨k, v⟩ := e
    by_cases hk : k = id
    · subst hk
      by_cases hl : live k <;> simp_all [Entries.find?]
    · by_cases hl : live k <;> simp_all [Entries.find?]

end Lineage

end TransformerEngine
