import TransformerEngine.Proofs.Lineage.Growth
import TransformerEngine.Proofs.Lineage.Line

/-!
# How deep derivations go

A run is defined with a bound on the depth of its derivations, and the bound is never
felt: a derived program has been through the transform that derived it and through all
that this transform's input had been through, so each level of derivation leaves fewer
transforms to apply. Once the bound is as large as the number of transforms that are left,
a larger one changes nothing (`applyWithin_stable`). So the whole run goes through its own
loop over again for every program that is derived in it (`applyTransforms_eq`), whatever
programs the transforms return.
-/

namespace TransformerEngine

variable {W : Type} {nested nested' : Applying W} {invocation : Invocation}

/-- A script runs the same over two ways to transform derived programs that agree on
whatever it derives from lines that have grown since `before`. -/
theorem Script.run_congr {before : Lineage} (hgrows : Applying.Grows nested)
    (hagree : ∀ (state : RunState W) (roots : List String), before.Grows state.lineage →
      nested (state.derive invocation roots).1 (state.derive invocation roots).2 =
        nested' (state.derive invocation roots).1 (state.derive invocation roots).2)
    {α : Type} (script : Script W α) (reports : List Diagnostic) (state : RunState W)
    (h : before.Grows state.lineage) :
    script.run nested invocation reports state = script.run nested' invocation reports state := by
  induction script generalizing reports state with
  | done value => rfl
  | fail failure => rfl
  | addFile name text next ih => exact ih _ _ h
  | report d next ih => exact ih _ _ h
  | originRoots next ih => exact ih _ _ _ h
  | derive roots next ih =>
    -- both runs derive the same program in the same state, and go on from one answer
    have hsame := hagree state roots h
    have hnow : before.Grows
        (nested (state.derive invocation roots).1 (state.derive invocation roots).2).2.lineage :=
      (h.trans (Lineage.grows_inherit _ _ _ _)).trans
        (hgrows _ (state.derive invocation roots).2)
    rw [run_derive, run_derive, ← hsame]
    exact ih _ _ _ hnow
  | build roots options next ih => exact ih _ _ _ h
  | files next ih => exact ih _ _ _ h
  | readWorld next ih => exact ih _ _ _ h
  | writeWorld world next ih => exact ih _ _ h

/-- An invocation comes to the same over two ways to transform derived programs that agree
on programs with the transforms of its input and its own. -/
theorem invoke_congr (hgrows : Applying.Grows nested) {transform : ProgramTransform W}
    {state : RunState W}
    (hagree : ∀ (child : Program) (now : RunState W),
      (∀ i ∈ state.lineage.applied invocation.input.id, i ∈ now.lineage.applied child.id) →
      invocation.identity ∈ now.lineage.applied child.id → nested child now = nested' child now) :
    invoke nested transform invocation state = invoke nested' transform invocation state := by
  have hrun : (transform invocation).run nested invocation [] (state.note (.began invocation)) =
      (transform invocation).run nested' invocation [] (state.note (.began invocation)) := by
    refine Script.run_congr hgrows (fun now roots hnow => ?_) _ _ _ (.refl state.lineage)
    -- a derived program inherits from the input, whose line has only grown meanwhile
    refine hagree _ _ (fun i hi => ?_) ?_
    · exact Lineage.mem_applied_inherit.mpr (.inr ⟨rfl, .inl (hnow _ i hi)⟩)
    · exact Lineage.mem_applied_inherit.mpr (.inr ⟨rfl, .inr (List.mem_singleton_self _)⟩)
  rw [invoke, invoke, hrun]

/-- The loop comes to the same over two ways to transform derived programs that agree
where fewer than `bound` of the `ids` are left. -/
theorem applyAll_congr {ids : List TransformIdentity} {bound : Nat}
    (hgrows : Applying.Grows nested)
    (hagree : ∀ (child : Program) (now : RunState W),
      (unapplied ids (now.lineage.applied child.id)).length < bound →
      nested child now = nested' child now)
    {transforms : List (ResolvedTransform W)} (hids : ∀ t ∈ transforms, t.identity ∈ ids)
    {program : Program} {state : RunState W}
    (h : (unapplied ids (state.lineage.applied program.id)).length ≤ bound) :
    applyAll nested transforms program state = applyAll nested' transforms program state := by
  induction transforms generalizing program state with
  | nil => rfl
  | cons t rest ih =>
    have hids' : ∀ t ∈ rest, t.identity ∈ ids := fun t ht => hids t (List.mem_cons_of_mem _ ht)
    by_cases happlied : t.identity ∈ state.lineage.applied program.id
    · rw [applyAll_cons_of_applied happlied, applyAll_cons_of_applied happlied]
      exact ih hids' h
    by_cases hv : ∃ transform, t.value = .program transform
    · obtain ⟨transform, hv⟩ := hv
      -- what `t` derives has been through `t`, which was left, so fewer are left
      have hinvoke : invoke nested transform (t.invocationOn program) state =
          invoke nested' transform (t.invocationOn program) state := by
        refine invoke_congr hgrows fun child now hold hown => hagree child now ?_
        exact Nat.lt_of_lt_of_le
          (length_unapplied_lt (hids t (List.mem_cons_self ..)) happlied hown hold) h
      rw [applyAll_cons_of_new happlied hv, applyAll_cons_of_new happlied hv, ← hinvoke]
      cases hanswer : invoke nested transform (t.invocationOn program) state with
      | mk result middle =>
        cases result with
        | error failure => rfl
        | ok next =>
          -- the line of what came back has grown, so no more is left than before
          refine ih hids' (Nat.le_trans (length_unapplied_mono fun i hi => ?_) h)
          exact mem_applied_of_invoke hgrows hanswer (.inl hi)
    · have hother : ∀ transform, t.value ≠ .program transform :=
        fun transform heq => hv ⟨transform, heq⟩
      rw [applyAll_cons_of_other hother, applyAll_cons_of_other hother]
      exact ih hids' h

/-- **A larger bound changes nothing** once it allows for the transforms that are left. -/
theorem applyWithin_stable (transforms : List (ResolvedTransform W)) (depth : Nat)
    (program : Program) (state : RunState W)
    (h : (unapplied (transforms.map ResolvedTransform.identity)
      (state.lineage.applied program.id)).length ≤ depth) :
    applyWithin transforms (depth + 1) program state =
      applyWithin transforms depth program state := by
  have hids : ∀ t ∈ transforms, t.identity ∈ transforms.map ResolvedTransform.identity :=
    fun t ht => List.mem_map_of_mem ht
  induction depth generalizing program state with
  | zero =>
    -- nothing is left, so the loop passes over the whole list
    have hnone := List.length_eq_zero_iff.mp (Nat.le_zero.mp h)
    refine applyAll_of_applied _ fun t ht => ?_
    by_contra hnew
    exact absurd (mem_unapplied.mpr ⟨hids t ht, hnew⟩) (hnone ▸ List.not_mem_nil)
  | succ depth ih =>
    exact applyAll_congr (applyWithin_grows transforms (depth + 1))
      (fun child now hlt => ih child now (Nat.le_of_lt_succ hlt)) hids h

/-- **Derived programs go through the whole run.** The loop over the transforms hands each
program that is derived in it to the same loop. -/
theorem applyTransforms_eq (transforms : List (ResolvedTransform W)) (program : Program)
    (state : RunState W) :
    applyTransforms transforms program state =
      applyAll (applyTransforms transforms) transforms program state :=
  (applyWithin_stable transforms transforms.length program state <|
    Nat.le_trans length_unapplied_le (Nat.le_of_eq (List.length_map _))).symm

end TransformerEngine
