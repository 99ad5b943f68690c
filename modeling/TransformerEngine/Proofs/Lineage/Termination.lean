import TransformerEngine.Proofs.Lineage.Depth
import TransformerEngine.Proofs.Lineage.Stack

/-!
# Runs end

A transform may derive programs, and each of them is handed to the whole list of
transforms again, the one that is just running included. `Finishes` says what this comes
to without any bound: it has one rule for each step that a run can take, and a task
finishes only if finitely many steps lead to its answer. Every task finishes, with exactly
one answer, and the answer is the one that the bounded run gives (`finishes_iff`).

The reason is that no transform runs inside itself. What is invoked is not among the
transforms that its input has been through, while all that are running are: whatever they
derive has been through them, and lines only grow. So the running invocations are always
of different transforms (`applyWithin_keepsDistinct`), and there are never more of them
than transforms in the list.
-/

namespace TransformerEngine

variable {W : Type} {transforms : List (ResolvedTransform W)}

/-! ### Runs without a bound -/

/-- A part of a run that is still to be done. -/
inductive Task (W : Type) where
  /-- Hand a program from transform to transform, through those that `remaining` lists. -/
  | apply (remaining : List (ResolvedTransform W)) (program : Program)
  /-- Follow a script of an invocation to its end. So far the invocation made `reports`. -/
  | follow (invocation : Invocation) (script : Script W Program) (reports : List Diagnostic)

/-- A task is done in finitely many steps, and this is what it comes to. A program that is
derived on the way is handed to all of `transforms`, however deep it was derived. -/
inductive Finishes (transforms : List (ResolvedTransform W)) :
    Task W → RunState W → Except PluginError Program × RunState W → Prop where
  /-- Nothing remains. -/
  | applied (program : Program) (state : RunState W) :
    Finishes transforms (.apply [] program) state (.ok program, state)
  /-- The next transform was applied along the line of the program already, or is none of
  whole programs. -/
  | passes {t rest program state answer}
    (h : t.identity ∈ state.lineage.applied program.id ∨
      ∀ transform, t.value ≠ .program transform)
    (later : Finishes transforms (.apply rest program) state answer) :
    Finishes transforms (.apply (t :: rest) program) state answer
  /-- The next transform is invoked and returns a program, which is handed on. -/
  | invokes {t rest program state transform output middle answer}
    (hnew : t.identity ∉ state.lineage.applied program.id) (hv : t.value = .program transform)
    (inner : Finishes transforms
      (.follow (t.invocationOn program) (transform (t.invocationOn program)) [])
      (state.note (.began (t.invocationOn program))) (.ok output, middle))
    (later : Finishes transforms (.apply rest output) middle answer) :
    Finishes transforms (.apply (t :: rest) program) state answer
  /-- The next transform is invoked and fails. -/
  | stops {t rest program state transform error final}
    (hnew : t.identity ∉ state.lineage.applied program.id) (hv : t.value = .program transform)
    (inner : Finishes transforms
      (.follow (t.invocationOn program) (transform (t.invocationOn program)) [])
      (state.note (.began (t.invocationOn program))) (.error error, final)) :
    Finishes transforms (.apply (t :: rest) program) state (.error error, final)
  /-- The script is over and yields a program. -/
  | returns (invocation : Invocation) (output : Program) (reports : List Diagnostic)
    (state : RunState W) :
    Finishes transforms (.follow invocation (.done output) reports) state
      (.ok output, state.settle invocation output reports)
  /-- The script fails. -/
  | fails (invocation : Invocation) (failure : Failure) (reports : List Diagnostic)
    (state : RunState W) :
    Finishes transforms (.follow invocation (.fail failure) reports) state
      (.error (.transformer failure), state.note (.failed invocation failure))
  | addsFile {invocation name text next reports state answer}
    (later : Finishes transforms (.follow invocation next reports)
      ({ state with overlay := state.overlay.write name text }.note
        (.addedFile invocation name text)) answer) :
    Finishes transforms (.follow invocation (.addFile name text next) reports) state answer
  | reports {invocation d next reports state answer}
    (later : Finishes transforms (.follow invocation next (reports ++ [d]))
      (state.note (.reported invocation d)) answer) :
    Finishes transforms (.follow invocation (.report d next) reports) state answer
  | asksOrigin {invocation next reports state answer}
    (later : Finishes transforms
      (.follow invocation (next (state.lineage.originRoots invocation.input)) reports)
      (state.note (.askedOrigin invocation (state.lineage.originRoots invocation.input))) answer) :
    Finishes transforms (.follow invocation (.originRoots next) reports) state answer
  /-- The script derives a program, which goes through all transforms first. -/
  | derives {invocation roots next reports state result middle answer}
    (inner : Finishes transforms (.apply transforms (state.derive invocation roots).1)
      (state.derive invocation roots).2 (result, middle))
    (later : Finishes transforms (.follow invocation (next result) reports) middle answer) :
    Finishes transforms (.follow invocation (.derive roots next) reports) state answer
  | builds {invocation roots options next reports state answer}
    (later : Finishes transforms
      (.follow invocation (next (state.newProgram roots options).1) reports)
      (state.newProgram roots options).2 answer) :
    Finishes transforms (.follow invocation (.build roots options next) reports) state answer
  | looksAtFiles {invocation next reports state answer}
    (later : Finishes transforms (.follow invocation (next state.overlay) reports) state answer) :
    Finishes transforms (.follow invocation (.files next) reports) state answer
  | readsWorld {invocation next reports state answer}
    (later : Finishes transforms (.follow invocation (next state.world) reports) state answer) :
    Finishes transforms (.follow invocation (.readWorld next) reports) state answer
  | writesWorld {invocation world next reports state answer}
    (later : Finishes transforms (.follow invocation next reports) { state with world } answer) :
    Finishes transforms (.follow invocation (.writeWorld world next) reports) state answer

/-- How an invocation ends whose script came to `answer`. -/
def conclude (invocation : Invocation)
    (answer : Except Failure (Program × List Diagnostic) × RunState W) :
    Except PluginError Program × RunState W :=
  match answer with
  | (.ok (output, reports), state) => (.ok output, state.settle invocation output reports)
  | (.error failure, state) =>
    (.error (.transformer failure), state.note (.failed invocation failure))

/-- What the bounded run makes of a task. -/
def Task.outcome (transforms : List (ResolvedTransform W)) :
    Task W → RunState W → Except PluginError Program × RunState W
  | apply remaining program, state =>
    applyAll (applyTransforms transforms) remaining program state
  | follow invocation script reports, state =>
    conclude invocation (script.run (applyTransforms transforms) invocation reports state)

/-- The loop goes on from the end of an invocation as `conclude` has it. -/
theorem applyAll_cons_conclude {nested : Applying W} {t : ResolvedTransform W}
    {rest : List (ResolvedTransform W)} {program : Program} {state : RunState W}
    {transform : ProgramTransform W} (hnew : t.identity ∉ state.lineage.applied program.id)
    (hv : t.value = .program transform) :
    applyAll nested (t :: rest) program state =
      match conclude (t.invocationOn program) ((transform (t.invocationOn program)).run nested
        (t.invocationOn program) [] (state.note (.began (t.invocationOn program)))) with
      | (.ok output, middle) => applyAll nested rest output middle
      | (.error error, final) => (.error error, final) := by
  rw [applyAll_cons_of_new hnew hv]
  rcases invoke_cases nested transform (t.invocationOn program) state with
    ⟨output, reports, final, heq, hinv⟩ | ⟨failure, final, heq, hinv⟩
  · rw [hinv, heq]
    rfl
  · rw [hinv, heq]
    rfl

/-! ### Every task finishes as the bounded run does -/

/-- **One answer at most.** Whatever a task comes to is what the bounded run makes of it. -/
theorem Finishes.outcome_eq {task : Task W} {state : RunState W}
    {answer : Except PluginError Program × RunState W}
    (h : Finishes transforms task state answer) : task.outcome transforms state = answer := by
  induction h with
  | applied program state => rfl
  | passes h later ih =>
    rcases h with happlied | hother
    · exact (applyAll_cons_of_applied happlied).trans ih
    · exact (applyAll_cons_of_other hother).trans ih
  | invokes hnew hv inner later ihInner ihLater =>
    refine (applyAll_cons_conclude hnew hv).trans ?_
    rw [Task.outcome] at ihInner
    rw [ihInner]
    exact ihLater
  | stops hnew hv inner ih =>
    refine (applyAll_cons_conclude hnew hv).trans ?_
    rw [Task.outcome] at ih
    rw [ih]
  | derives inner later ihInner ihLater =>
    -- the derived program goes through the loop over the whole list, which is a run
    rw [Task.outcome, ← applyTransforms_eq] at ihInner
    rw [Task.outcome, Script.run_derive, ihInner]
    exact ihLater
  | returns | fails => rfl
  | addsFile later ih | reports later ih | asksOrigin later ih | builds later ih
  | looksAtFiles later ih | readsWorld later ih | writesWorld later ih => exact ih

/-- A script finishes if all that it derives does. -/
theorem finishes_follow {invocation : Invocation} (before : Lineage)
    (hderived : ∀ (state : RunState W) (roots : List String), before.Grows state.lineage →
      Finishes transforms (.apply transforms (state.derive invocation roots).1)
        (state.derive invocation roots).2
        (applyTransforms transforms (state.derive invocation roots).1
          (state.derive invocation roots).2))
    (script : Script W Program) (reports : List Diagnostic) (state : RunState W)
    (h : before.Grows state.lineage) :
    Finishes transforms (.follow invocation script reports) state
      ((Task.follow invocation script reports).outcome transforms state) := by
  induction script generalizing reports state with
  | done output => exact .returns invocation output reports state
  | fail failure => exact .fails invocation failure reports state
  | addFile name text next ih => exact .addsFile (ih _ _ h)
  | report d next ih => exact .reports (ih _ _ h)
  | originRoots next ih => exact .asksOrigin (ih _ _ _ h)
  | derive roots next ih =>
    have hnow : before.Grows (applyTransforms transforms (state.derive invocation roots).1
        (state.derive invocation roots).2).2.lineage :=
      (h.trans (Lineage.grows_inherit _ _ _ _)).trans
        (applyWithin_grows transforms transforms.length _ (state.derive invocation roots).2)
    exact .derives (hderived state roots h) (ih _ _ _ hnow)
  | build roots options next ih => exact .builds (ih _ _ _ h)
  | files next ih => exact .looksAtFiles (ih _ _ _ h)
  | readWorld next ih => exact .readsWorld (ih _ _ _ h)
  | writeWorld world next ih => exact .writesWorld (ih _ _ h)

/-- The loop finishes if every program does of whose line fewer than `bound` transforms of
the list are left to apply. -/
theorem finishes_apply (ids : List TransformIdentity) {bound : Nat}
    (hderived : ∀ (child : Program) (now : RunState W),
      (unapplied ids (now.lineage.applied child.id)).length < bound →
      Finishes transforms (.apply transforms child) now (applyTransforms transforms child now))
    {remaining : List (ResolvedTransform W)} (hids : ∀ t ∈ remaining, t.identity ∈ ids)
    {program : Program} {state : RunState W}
    (h : (unapplied ids (state.lineage.applied program.id)).length ≤ bound) :
    Finishes transforms (.apply remaining program) state
      ((Task.apply remaining program).outcome transforms state) := by
  have hgrows := applyWithin_grows transforms transforms.length
  induction remaining generalizing program state with
  | nil => exact .applied program state
  | cons t rest ih =>
    have hids' : ∀ t ∈ rest, t.identity ∈ ids := fun t ht => hids t (List.mem_cons_of_mem _ ht)
    by_cases happlied : t.identity ∈ state.lineage.applied program.id
    · rw [Task.outcome, applyAll_cons_of_applied happlied]
      exact .passes (.inl happlied) (ih hids' h)
    by_cases hv : ∃ transform, t.value = .program transform
    · obtain ⟨transform, hv⟩ := hv
      -- what `t` derives has been through `t`, which was left, so fewer are left
      have hless : ∀ (now : RunState W) (roots : List String), state.lineage.Grows now.lineage →
          (unapplied ids ((now.derive (t.invocationOn program) roots).2.lineage.applied
            (now.derive (t.invocationOn program) roots).1.id)).length < bound := by
        intro now roots hnow
        refine Nat.lt_of_lt_of_le
          (length_unapplied_lt (hids t (List.mem_cons_self ..)) happlied ?_ fun i hi => ?_) h
        · exact Lineage.mem_applied_inherit.mpr (.inr ⟨rfl, .inr (List.mem_singleton_self _)⟩)
        · exact Lineage.mem_applied_inherit.mpr (.inr ⟨rfl, .inl (hnow _ i hi)⟩)
      have hfollow := finishes_follow state.lineage
        (fun now roots hnow => hderived _ _ (hless now roots hnow))
        (transform (t.invocationOn program)) [] (state.note (.began (t.invocationOn program)))
        (.refl _)
      rw [Task.outcome, applyAll_cons_conclude happlied hv]
      rw [Task.outcome] at hfollow
      rcases invoke_cases (applyTransforms transforms) transform (t.invocationOn program) state
        with ⟨output, reports, final, heq, hinv⟩ | ⟨failure, final, heq, hinv⟩
      · rw [heq] at hfollow ⊢
        -- the line of what came back has grown, so no more is left than before
        refine .invokes happlied hv hfollow (ih hids' (Nat.le_trans ?_ h))
        exact length_unapplied_mono fun i hi => mem_applied_of_invoke hgrows hinv (.inl hi)
      · rw [heq] at hfollow ⊢
        exact .stops happlied hv hfollow
    · have hother : ∀ transform, t.value ≠ .program transform :=
        fun transform heq => hv ⟨transform, heq⟩
      rw [Task.outcome, applyAll_cons_of_other hother]
      exact .passes (.inr hother) (ih hids' h)

/-- **Runs end.** Each level of derivation leaves fewer transforms to apply. -/
theorem finishes_applyTransforms (transforms : List (ResolvedTransform W)) (program : Program)
    (state : RunState W) :
    Finishes transforms (.apply transforms program) state
      (applyTransforms transforms program state) := by
  -- along the number of transforms that are left
  induction hleft : (unapplied (transforms.map ResolvedTransform.identity)
      (state.lineage.applied program.id)).length using Nat.strongRecOn
      generalizing program state with
  | _ left ih =>
    rw [applyTransforms_eq]
    exact finishes_apply _ (fun child now hlt => ih _ hlt child now rfl)
      (fun t ht => List.mem_map_of_mem ht) (Nat.le_of_eq hleft)

/-- Every task finishes, in one way. -/
theorem finishes_iff {task : Task W} {state : RunState W}
    {answer : Except PluginError Program × RunState W} :
    Finishes transforms task state answer ↔ task.outcome transforms state = answer := by
  refine ⟨Finishes.outcome_eq, ?_⟩
  rintro rfl
  cases task with
  | apply remaining program =>
    exact finishes_apply (remaining.map ResolvedTransform.identity)
      (fun child now _ => finishes_applyTransforms transforms child now)
      (fun t ht => List.mem_map_of_mem ht) (Nat.le_refl _)
  | follow invocation script reports =>
    exact finishes_follow state.lineage
      (fun now roots _ => finishes_applyTransforms transforms _ _) script reports state (.refl _)

/-! ### No transform runs inside itself -/

/-- **Runs end, and no transform runs inside itself.** Whatever the transforms do, whatever
programs they return and whatever the lineages are, applying transforms to a program comes
to exactly one answer in finitely many steps. At every moment of the run the running
invocations are on a stack, they are of different transforms of the list, and so there are
never more of them than the list has transforms; at the end none is left. -/
theorem applyTransforms_finishes (transforms : List (ResolvedTransform W)) (program : Program)
    (state : RunState W) :
    (∀ answer, Finishes transforms (.apply transforms program) state answer ↔
      applyTransforms transforms program state = answer) ∧
    (∀ earlier, earlier <+: happened state (applyTransforms transforms program state).2 →
      Stacked [] earlier (running earlier) ∧
      ((running earlier).map Invocation.identity).Nodup ∧
      (∀ i ∈ running earlier, i.identity ∈ transforms.map ResolvedTransform.identity) ∧
      (running earlier).length ≤ (transforms.map ResolvedTransform.identity).eraseDups.length) ∧
    running (happened state (applyTransforms transforms program state).2) = [] := by
  have hstacked : Stacked [] (happened state (applyTransforms transforms program state).2) [] :=
    applyTransforms_stacked rfl []
  obtain ⟨events, hjournal, -, hthroughout⟩ :=
    applyWithin_keepsDistinct transforms transforms.length program state []
      ⟨List.nodup_nil, fun _ hi => absurd hi List.not_mem_nil⟩
      (fun _ hi => absurd hi List.not_mem_nil)
  have hevents : happened state (applyTransforms transforms program state).2 = events :=
    happened_eq hjournal
  refine ⟨fun answer => ?_, fun earlier hearlier => ?_, hstacked.foldl_restack⟩
  · rw [finishes_iff, Task.outcome, ← applyTransforms_eq]
  · have hdistinct : Distinct (transforms.map ResolvedTransform.identity) (running earlier) :=
      hthroughout.of_prefix (hevents ▸ hearlier)
    refine ⟨?_, hdistinct.1, hdistinct.2, hdistinct.length_le⟩
    obtain ⟨later, hlater⟩ := hearlier
    obtain ⟨middle, hmiddle, -⟩ := (hlater.symm ▸ hstacked).exists_middle
    -- the stack that the events lead to is the one that they are read as
    rwa [running, hmiddle.foldl_restack]

end TransformerEngine
