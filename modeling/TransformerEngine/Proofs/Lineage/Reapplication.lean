import TransformerEngine.Proofs.Lineage.Depth

/-!
# Applying transforms again

A program that came out of a run has been through all transforms of that run, and as long
as it is alive nothing takes one of them back: neither further runs, of any transforms on
any programs, nor further inheritances, reports and prunings (`Lineage.Later`). So a
later run of transforms that were all applied then leaves everything as it is
(`applyTransforms_output_later`).

The transforms may return any program they like. What is needed of them is only that each
turn of the loop hands the line of its input to whatever comes back.
-/

namespace TransformerEngine

/-- `now` came from `start` by what may happen to a lineage while the program `kept` is
alive. Whatever the transforms, states and programs of the runs in between are, each run
works on the lineage that the one before it left behind. -/
inductive Lineage.Later (kept : ProgramId) (start : Lineage) : Lineage → Prop where
  | start : Later kept start start
  | applied {V : Type} (transforms : List (ResolvedTransform V)) (program : Program)
      (state : RunState V) (before : Later kept start state.lineage) :
      Later kept start (applyTransforms transforms program state).2.lineage
  | inherited {lineage : Lineage} (parent child : Program) (extra : List TransformIdentity)
      (before : Later kept start lineage) : Later kept start (lineage.inherit parent child extra)
  | reported {lineage : Lineage} (program : Program) (d : Diagnostic)
      (before : Later kept start lineage) : Later kept start (lineage.report program d)
  | pruned {lineage : Lineage} (live : ProgramId → Bool) (alive : live kept = true)
      (before : Later kept start lineage) : Later kept start (lineage.prune live).1

/-- **A living program loses no transform.** -/
theorem Lineage.Later.mem_applied {kept : ProgramId} {start now : Lineage}
    (h : Lineage.Later kept start now) {i : TransformIdentity} (hi : i ∈ start.applied kept) :
    i ∈ now.applied kept := by
  induction h with
  | start => exact hi
  | applied transforms program state before ih =>
    exact applyWithin_grows transforms transforms.length program state kept i ih
  | inherited parent child extra before ih =>
    exact Lineage.grows_inherit _ parent child extra kept i ih
  | reported program d before ih => rwa [Lineage.applied_report]
  | pruned live alive before ih => rwa [Lineage.applied_prune alive]

variable {W : Type}

/-- What a successful run returns has been through all its transforms. -/
theorem mem_applied_of_applyTransforms {transforms : List (ResolvedTransform W)}
    (programs : ∀ t ∈ transforms, ∃ transform, t.value = .program transform)
    {program output : Program} {state final : RunState W}
    (h : applyTransforms transforms program state = (.ok output, final))
    {t : ResolvedTransform W} (ht : t ∈ transforms) :
    t.identity ∈ final.lineage.applied output.id := by
  rw [applyTransforms_eq] at h
  exact mem_applied_applyAll (applyWithin_grows transforms transforms.length) programs h
    (.inr (List.mem_map_of_mem ht))

/-- A run of transforms that a program has all been through leaves everything as it is. -/
theorem applyTransforms_of_applied {transforms : List (ResolvedTransform W)}
    {program : Program} {state : RunState W}
    (h : ∀ t ∈ transforms, t.identity ∈ state.lineage.applied program.id) :
    applyTransforms transforms program state = (.ok program, state) := by
  rw [applyTransforms_eq]
  exact applyAll_of_applied _ h

namespace Sample

/-- Returns a program that belongs to no line. -/
def replace : ResolvedTransform Unit := .ofScript "replace" fun _ => .build [] {} .done

/-- The state in which one program was made and nothing else happened. -/
def first : RunState Unit where
  lineage := Lineage.empty
  overlay := { currentDirectory := "/" }
  nextId := ⟨1⟩
  world := ()

/-- What `replace` makes of that program. -/
def replaced : Program := ⟨⟨1⟩, [], {}, Table.empty, []⟩

/-- The state after it has. -/
def second : RunState Unit := (applyTransforms [replace] ⟨⟨0⟩, [], {}, Table.empty, []⟩ first).2

/-- Since then `replaced` was reported on and all other programs were forgotten. -/
def later : RunState Unit :=
  { second with
    lineage := ((second.lineage.report replaced (.error 1 "stale")).prune (· = replaced.id)).1 }

end Sample

/-- **Applying again changes nothing.** Once a run of transforms of whole programs has
returned `output`, and whatever happened to the lineage since then while `output` was
alive, a run of any of these transforms on `output` returns `output` itself and leaves
the state as it was: no lineage entry, no file of the overlay and no number is touched,
and nothing happens that the journal would list. -/
theorem applyTransforms_output_later {transforms : List (ResolvedTransform W)}
    (programs : ∀ t ∈ transforms, ∃ transform, t.value = .program transform)
    {program output : Program} {state final : RunState W}
    (h : applyTransforms transforms program state = (.ok output, final))
    {V : Type} {again : List (ResolvedTransform V)}
    (configured : ∀ t ∈ again, t.identity ∈ transforms.map ResolvedTransform.identity)
    {now : RunState V}
    (later : Lineage.Later output.id final.lineage now.lineage) :
    applyTransforms again output now = (.ok output, now) := by
  refine applyTransforms_of_applied fun t ht => later.mem_applied ?_
  obtain ⟨t', ht', hid⟩ := List.mem_map.mp (configured t ht)
  rw [← hid]
  exact mem_applied_of_applyTransforms programs h ht'

/-- What `replace` returns is of another line, and its transforms are kept all the same. -/
theorem applyTransforms_output_later_sample :
    applyTransforms [Sample.replace] ⟨⟨0⟩, [], {}, Table.empty, []⟩ Sample.first =
      (.ok Sample.replaced, Sample.second) ∧
    applyTransforms [Sample.replace, Sample.replace] Sample.replaced Sample.later =
      (.ok Sample.replaced, Sample.later) := by
  have hrun : applyTransforms [Sample.replace] ⟨⟨0⟩, [], {}, Table.empty, []⟩ Sample.first =
      (.ok Sample.replaced, Sample.second) := rfl
  refine ⟨hrun, applyTransforms_output_later ?_ hrun ?_ (.pruned _ ?_ (.reported _ _ .start))⟩
  · exact List.forall_mem_singleton.mpr ⟨_, rfl⟩
  · intro t ht
    have hreplace : t = Sample.replace := by simpa using ht
    rw [hreplace]
    exact List.mem_map_of_mem (List.mem_singleton_self _)
  · exact decide_eq_true rfl

end TransformerEngine
