import TransformerEngine.Proofs.Lineage.Outcome

/-!
# Each transform once

A list of transforms may name a transform twice, the program that it is applied to may
have been through some of them, and each transform may derive programs, keep what comes
back or throw it away, and return its input or what it kept. None of this shows along the
line of what a run returns: the transforms that were left to apply stand there once each,
in the order of the list (`applyTransforms_line`).
-/

namespace TransformerEngine

variable {W : Type}

/-! A list that names one of three transforms twice, and a program that has been through
another of them. -/

namespace Sample

/-- Derives twice. -/
def inject : ResolvedTransform Unit := .ofScript "inject" (rebuild (.error 1 "injected"))

/-- Returns its input. -/
def lint : ResolvedTransform Unit := .ofScript "lint" (announce (.error 2 "linted"))

/-- Returns its input, and has been applied before. -/
def check : ResolvedTransform Unit := .ofScript "check" (announce (.error 3 "checked"))

def transforms : List (ResolvedTransform Unit) := [check, inject, lint, inject]

/-- A program without files. -/
def entry : Program := ⟨⟨0⟩, [], {}, Table.empty, []⟩

/-- The state in which `entry` has been through `check` and nothing else was made. -/
def start : RunState Unit where
  lineage := (Lineage.empty.inherit entry entry [check.identity]).report entry (.error 3 "checked")
  overlay := { currentDirectory := "/" }
  nextId := ⟨1⟩
  world := ()

/-- What the second derivation of `inject` made. -/
def output : Program := ⟨⟨2⟩, [], {}, Table.empty, []⟩

/-- The state after the run. -/
def final : RunState Unit := (applyTransforms transforms entry start).2

theorem run_eq : applyTransforms transforms entry start = (.ok output, final) := rfl

theorem numbered : start.Numbered := by
  intro id hid
  have hne : id ≠ entry.id := by
    rintro rfl
    exact hid Nat.zero_lt_one
  show Lineage.find? (Lineage.report _ _ _) id = none
  rw [Lineage.find?_report_of_ne hne, Lineage.find?_inherit_of_ne hne]
  rfl

theorem made : start.Made entry.id := Nat.zero_lt_one

theorem staysOnLine : ∀ t ∈ transforms, t.StaysOnLine := by
  simp only [transforms, List.forall_mem_cons]
  exact ⟨announce_staysOnLine _ _, rebuild_staysOnLine _ _, announce_staysOnLine _ _,
    rebuild_staysOnLine _ _, fun _ ht => absurd ht (List.not_mem_nil)⟩

end Sample

/-- **Each transform once, in the order of the list.** If a run of transforms that return
their input or what they derived succeeds, then `output` is on the line of `program`: its
line is that of `program` with a part behind it that the run added. On this part there are
the transforms of the list that `program` had not been through, in the order in which the
list first names them; each of their invocations began exactly once in the run; and
`output` has been through these and what `program` had been through. -/
theorem applyTransforms_line {transforms : List (ResolvedTransform W)}
    (stays : ∀ t ∈ transforms, t.StaysOnLine) {program output : Program}
    {state final : RunState W} (numbered : state.Numbered) (made : state.Made program.id)
    (h : applyTransforms transforms program state = (.ok output, final)) :
    (∀ before : Trail, (happened state final).foldl RunEvent.extend before output.id =
      before program.id ++ lineOf (happened state final) output.id) ∧
    (lineOf (happened state final) output.id).map Invocation.identity =
      (transforms.map ResolvedTransform.identity).eraseDups.filter
        (· ∉ state.lineage.applied program.id) ∧
    (∀ i ∈ lineOf (happened state final) output.id,
      (begun (happened state final)).count i = 1) ∧
    ∀ identity, identity ∈ final.lineage.applied output.id ↔
      identity ∈ state.lineage.applied program.id ∨
        identity ∈ transforms.map ResolvedTransform.identity := by
  obtain ⟨stretch, arrival, hreturned, hids⟩ := applyTransforms_arrival stays numbered made h
  refine ⟨arrival.trail, hids, fun i hi => ?_, fun identity => ?_⟩
  · obtain ⟨result, he⟩ := hreturned i hi
    exact (applyTransforms_stacked h []).count_begun stretch.once he
  · -- the line has those of the list that were not applied, so together they are all
    rw [arrival.applied, hids, mem_unapplied]
    by_cases hold : identity ∈ state.lineage.applied program.id
    · exact iff_of_true (.inl hold) (.inl hold)
    · simp [hold]

/-- Here `inject` derives the program that `lint` goes through, so that it stands first on
the line of what comes back, and its second mention finds nothing to do. -/
theorem applyTransforms_line_sample :
    applyTransforms Sample.transforms Sample.entry Sample.start =
      (.ok Sample.output, Sample.final) ∧
    (lineOf (happened Sample.start Sample.final) Sample.output.id).map Invocation.identity =
      [Sample.inject.identity, Sample.lint.identity] ∧
    ∀ identity, identity ∈ Sample.final.lineage.applied Sample.output.id ↔
      identity ∈ [Sample.check.identity] ∨
        identity ∈ Sample.transforms.map ResolvedTransform.identity := by
  obtain ⟨-, hline, -, happlied⟩ :=
    applyTransforms_line Sample.staysOnLine Sample.numbered Sample.made Sample.run_eq
  exact ⟨Sample.run_eq, hline.trans (by decide), happlied⟩

end TransformerEngine
