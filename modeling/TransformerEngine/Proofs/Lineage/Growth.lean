import TransformerEngine.Proofs.Lineage.Steps

/-!
# Lines only grow

Nothing in a run takes a transform back from a line. `Lineage.Grows` compares two
lineages by the transforms applied along each line; every step of a run makes the
lineage grow, whatever the transforms do and whatever programs they return
(`applyWithin_grows`).

A run that succeeds ends with a program that has been through every transform of the
list (`mem_applied_applyAll`). Each turn of the loop hands what its input has been through
to whatever came back, so the argument needs no knowledge of where the output is from.
-/

namespace TransformerEngine

variable {W : Type}

/-! ### Growth of a lineage -/

/-- Every line of `before` has been through as much in `after`. -/
def Lineage.Grows (before after : Lineage) : Prop :=
  ∀ id, ∀ i ∈ before.applied id, i ∈ after.applied id

namespace Lineage

theorem Grows.refl (lineage : Lineage) : lineage.Grows lineage := fun _ _ h => h

theorem Grows.trans {a b c : Lineage} (first : a.Grows b) (last : b.Grows c) : a.Grows c :=
  fun id i h => last id i (first id i h)

theorem grows_inherit (lineage : Lineage) (parent child : Program)
    (extra : List TransformIdentity) : lineage.Grows (lineage.inherit parent child extra) :=
  fun _ _ h => mem_applied_inherit.mpr (.inl h)

theorem grows_reportAll (lineage : Lineage) (program : Program) (ds : List Diagnostic) :
    lineage.Grows (lineage.reportAll program ds) :=
  fun _ _ h => by rwa [applied_reportAll]

end Lineage

/-! ### Growth along a run -/

/-- Whatever the state, what a run works on has grown when the run is over. -/
def Applying.Grows (nested : Applying W) : Prop :=
  ∀ (program : Program) (state : RunState W),
    state.lineage.Grows (nested program state).2.lineage

/-- Having grown since `before` is kept by every step of a script. -/
theorem grows_invariant {nested : Applying W} (hn : Applying.Grows nested)
    (invocation : Invocation) (before : Lineage) :
    Script.Invariant nested invocation fun _ _ (state : RunState W) =>
      before.Grows state.lineage where
  addFile _ _ h := h
  report _ h := h
  originRoots h := h
  derive {_ _ state} roots h :=
    have joined := Lineage.grows_inherit state.lineage invocation.input
      (state.derive invocation roots).1 [invocation.identity]
    h.trans (joined.trans (hn _ (state.derive invocation roots).2))
  build _ _ h := h
  writeWorld _ h := h

/-- A script makes the lineage grow, whatever it does. -/
theorem Script.run_grows {nested : Applying W} (hn : Applying.Grows nested)
    (script : Script W Program) (invocation : Invocation) (reports : List Diagnostic)
    (state : RunState W) :
    state.lineage.Grows (script.run nested invocation reports state).2.lineage := by
  have hstart : state.lineage.Grows state.lineage := .refl _
  obtain ⟨_, _, h, -⟩ :=
    (grows_invariant hn invocation state.lineage).run script [] reports hstart
  exact h

theorem settle_grows (state : RunState W) (invocation : Invocation) (output : Program)
    (reports : List Diagnostic) :
    state.lineage.Grows (state.settle invocation output reports).lineage := by
  rw [RunState.settle_lineage]
  exact (Lineage.grows_inherit _ _ _ _).trans (Lineage.grows_reportAll _ _ _)

/-- What the input of a settled invocation has been through, and the transform itself,
are on the line of the output. -/
theorem mem_applied_settle {state : RunState W} {invocation : Invocation} {output : Program}
    {reports : List Diagnostic} {i : TransformIdentity}
    (h : i ∈ state.lineage.applied invocation.input.id ∨ i = invocation.identity) :
    i ∈ (state.settle invocation output reports).lineage.applied output.id := by
  rw [RunState.settle_lineage, Lineage.applied_reportAll, Lineage.mem_applied_inherit]
  exact .inr ⟨rfl, h.imp_right List.mem_singleton.mpr⟩

theorem invoke_grows {nested : Applying W} (hn : Applying.Grows nested)
    (transform : ProgramTransform W) (invocation : Invocation) (state : RunState W) :
    state.lineage.Grows (invoke nested transform invocation state).2.lineage := by
  have hgrows := Script.run_grows hn (transform invocation) invocation []
    (state.note (.began invocation))
  rcases invoke_cases nested transform invocation state with
    ⟨output, reports, final, heq, hinv⟩ | ⟨failure, final, heq, hinv⟩
  · rw [heq] at hgrows
    rw [hinv]
    exact hgrows.trans (settle_grows final invocation output reports)
  · rw [heq] at hgrows
    rw [hinv]
    exact hgrows

/-- An output has been through the transform and all that its input had been through. -/
theorem mem_applied_of_invoke {nested : Applying W} (hn : Applying.Grows nested)
    {transform : ProgramTransform W} {invocation : Invocation} {state final : RunState W}
    {output : Program} (h : invoke nested transform invocation state = (.ok output, final))
    {i : TransformIdentity}
    (hi : i ∈ state.lineage.applied invocation.input.id ∨ i = invocation.identity) :
    i ∈ final.lineage.applied output.id := by
  have hgrows := Script.run_grows hn (transform invocation) invocation []
    (state.note (.began invocation))
  rcases invoke_cases nested transform invocation state with
    ⟨output', reports, ended, heq, hinv⟩ | ⟨failure, ended, heq, hinv⟩
  · rw [heq] at hgrows
    obtain ⟨rfl, rfl⟩ : output' = output ∧ ended.settle invocation output' reports = final := by
      rw [hinv] at h
      exact ⟨Except.ok.inj (congrArg Prod.fst h), congrArg Prod.snd h⟩
    exact mem_applied_settle (hi.imp_left (hgrows _ i))
  · rw [hinv] at h
    exact absurd (congrArg Prod.fst h) (by simp)

theorem applyAll_grows {nested : Applying W} (hn : Applying.Grows nested)
    (transforms : List (ResolvedTransform W)) : Applying.Grows (applyAll nested transforms) := by
  intro program state
  induction transforms generalizing program state with
  | nil => exact Lineage.Grows.refl _
  | cons t rest ih =>
    rcases applyAll_cons_cases nested t rest program state with hskip | ⟨transform, hv, hnew⟩
    · rw [hskip]
      exact ih program state
    · have hgrows := invoke_grows hn transform (t.invocationOn program) state
      rw [applyAll_cons_of_new hnew hv]
      generalize invoke nested transform (t.invocationOn program) state = answer at hgrows ⊢
      obtain ⟨result, final⟩ := answer
      cases result with
      | error failure => exact hgrows
      | ok output => exact hgrows.trans (ih output final)

/-- **Lines only grow.** No run takes a transform back from a line. -/
theorem applyWithin_grows (transforms : List (ResolvedTransform W)) (depth : Nat) :
    Applying.Grows (applyWithin transforms depth) := by
  induction depth with
  | zero => exact fun _ _ => Lineage.Grows.refl _
  | succ depth ih => exact applyAll_grows ih transforms

/-- **A run that succeeds leaves nothing out.** What comes out of the loop has been
through what went in has been through, and through every transform of the list. -/
theorem mem_applied_applyAll {nested : Applying W} (hn : Applying.Grows nested)
    {transforms : List (ResolvedTransform W)}
    (programs : ∀ t ∈ transforms, ∃ transform, t.value = .program transform)
    {program output : Program} {state final : RunState W}
    (h : applyAll nested transforms program state = (.ok output, final))
    {i : TransformIdentity}
    (hi : i ∈ state.lineage.applied program.id ∨
      i ∈ transforms.map ResolvedTransform.identity) :
    i ∈ final.lineage.applied output.id := by
  induction transforms generalizing program state with
  | nil =>
    obtain ⟨h₁, h₂⟩ := Prod.mk.inj h
    obtain rfl := Except.ok.inj h₁
    subst h₂
    exact hi.resolve_right (List.not_mem_nil)
  | cons t rest ih =>
    have programs' : ∀ t ∈ rest, ∃ transform, t.value = .program transform :=
      fun t ht => programs t (List.mem_cons_of_mem _ ht)
    rw [List.map_cons, List.mem_cons] at hi
    by_cases ha : t.identity ∈ state.lineage.applied program.id
    · -- passed over: the line has been through `t` before
      rw [applyAll_cons_of_applied ha] at h
      refine ih programs' h ?_
      rcases hi with hi | rfl | hi
      · exact .inl hi
      · exact .inl ha
      · exact .inr hi
    · -- invoked: what comes back has been through `t` and through all that went in had
      obtain ⟨transform, hv⟩ := programs t (List.mem_cons_self ..)
      rw [applyAll_cons_of_new ha hv] at h
      cases hinv : invoke nested transform (t.invocationOn program) state with
      | mk result middle =>
        rw [hinv] at h
        cases result with
        | error failure => exact absurd (congrArg Prod.fst h) (by simp)
        | ok next =>
          refine ih programs' h ?_
          rcases hi with hi | rfl | hi
          · exact .inl (mem_applied_of_invoke hn hinv (.inl hi))
          · exact .inl (mem_applied_of_invoke hn hinv (.inr rfl))
          · exact .inr hi

/-- A program that has been through every transform of a list goes through it untouched. -/
theorem applyAll_of_applied (nested : Applying W) {transforms : List (ResolvedTransform W)}
    {program : Program} {state : RunState W}
    (h : ∀ t ∈ transforms, t.identity ∈ state.lineage.applied program.id) :
    applyAll nested transforms program state = (.ok program, state) := by
  induction transforms with
  | nil => rfl
  | cons t rest ih =>
    rw [applyAll_cons_of_applied (h t (List.mem_cons_self ..))]
    exact ih fun t ht => h t (List.mem_cons_of_mem _ ht)

end TransformerEngine
