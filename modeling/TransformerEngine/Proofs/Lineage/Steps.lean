import TransformerEngine.Lineage.Run
import TransformerEngine.Proofs.Lineage.Entries

/-!
# Steps of a run

A run of a script is a chain of steps, and only one of them, a derivation, reaches other
transforms. This module takes runs apart into these steps, so that what is proved of a
run is proved of each step once:

* `Script.Invariant` lists what every step of a script must keep, and
  `Script.Invariant.run` carries it to the end of the run. Beside the reports and the
  state an invariant speaks of the programs that the script *knows*: those that it was
  handed and those that its derivations came back with.
* `Script.YieldsFrom` says of a script that whatever answers it gets, it yields a program
  that it knows.
* `invoke_cases` and the `applyAll_cons` lemmas say what an invocation and one turn of the
  loop over the transforms can come to.
-/

namespace TransformerEngine

variable {W : Type}

/-! ### States between steps -/

namespace RunState

/-- The program that an invocation derives, and the state in which the other transforms
are handed it. -/
def derive (state : RunState W) (invocation : Invocation) (roots : List String) :
    Program × RunState W :=
  let made := state.newProgram roots invocation.input.options
  (made.1, ({ made.2 with
    lineage := made.2.lineage.inherit invocation.input made.1 [invocation.identity] }).note
      (.derived invocation made.1))

/-- The state after an invocation returned `output` and its reports were added. -/
def settle (state : RunState W) (invocation : Invocation) (output : Program)
    (reports : List Diagnostic) : RunState W :=
  ({ state with
    lineage := (state.lineage.inherit invocation.input output
      [invocation.identity]).reportAll output reports }).note (.returned invocation output)

variable (state : RunState W) (invocation : Invocation) (roots : List String)

@[simp] theorem note_journal (e : RunEvent) :
    (state.note e).journal = state.journal ++ [e] := rfl

@[simp] theorem derive_id : (state.derive invocation roots).1.id = state.nextId := rfl

@[simp] theorem derive_lineage :
    (state.derive invocation roots).2.lineage =
      state.lineage.inherit invocation.input (state.derive invocation roots).1
        [invocation.identity] := rfl

@[simp] theorem derive_journal :
    (state.derive invocation roots).2.journal =
      state.journal ++ [.derived invocation (state.derive invocation roots).1] := rfl

variable (output : Program) (reports : List Diagnostic)

@[simp] theorem settle_lineage :
    (state.settle invocation output reports).lineage =
      (state.lineage.inherit invocation.input output [invocation.identity]).reportAll
        output reports := rfl

@[simp] theorem settle_journal :
    (state.settle invocation output reports).journal =
      state.journal ++ [.returned invocation output] := rfl

end RunState

/-! ### Scripts -/

/-- What a script knows after a derivation came back with `result`. -/
def learn (known : List Program) : Except PluginError Program → List Program
  | .ok program => program :: known
  | .error _ => known

namespace Script

/-- The script yields one of the `known` programs or one that a derivation of its own
came back with, whatever answers it gets. -/
def YieldsFrom (known : List Program) : Script W Program → Prop
  | done program => program ∈ known
  | fail _ => True
  | addFile _ _ next => next.YieldsFrom known
  | report _ next => next.YieldsFrom known
  | originRoots next => ∀ roots, (next roots).YieldsFrom known
  | derive _ next => ∀ result, (next result).YieldsFrom (learn known result)
  | build _ _ next => ∀ program, (next program).YieldsFrom known
  | files next => ∀ host, (next host).YieldsFrom known
  | readWorld next => ∀ world, (next world).YieldsFrom known
  | writeWorld _ next => next.YieldsFrom known

theorem yieldsFrom_deriveOrFail (known : List Program) (roots : List String) :
    (deriveOrFail (W := W) roots).YieldsFrom known := by
  intro result
  cases result with
  | error error => trivial
  | ok program => exact List.mem_cons_self ..

theorem run_derive {α : Type} (nested : Applying W) (invocation : Invocation)
    (roots : List String) (next : Except PluginError Program → Script W α)
    (reports : List Diagnostic) (state : RunState W) :
    (derive roots next).run nested invocation reports state =
      (next (nested (state.derive invocation roots).1 (state.derive invocation roots).2).1).run
        nested invocation reports
        (nested (state.derive invocation roots).1 (state.derive invocation roots).2).2 := rfl

/-- A property of known programs, reports and states that every step of an invocation's
script keeps. -/
structure Invariant (nested : Applying W) (invocation : Invocation)
    (P : List Program → List Diagnostic → RunState W → Prop) : Prop where
  addFile : ∀ {known reports state} (name text : String), P known reports state →
    P known reports ({ state with overlay := state.overlay.write name text }.note
      (.addedFile invocation name text))
  report : ∀ {known reports state} (d : Diagnostic), P known reports state →
    P known (reports ++ [d]) (state.note (.reported invocation d))
  originRoots : ∀ {known reports state}, P known reports state →
    P known reports (state.note
      (.askedOrigin invocation (state.lineage.originRoots invocation.input)))
  derive : ∀ {known reports state} (roots : List String), P known reports state →
    P (learn known (nested (state.derive invocation roots).1
        (state.derive invocation roots).2).1) reports
      (nested (state.derive invocation roots).1 (state.derive invocation roots).2).2
  build : ∀ {known reports state} (roots : List String) (options : CompilerOptions),
    P known reports state → P known reports (state.newProgram roots options).2
  writeWorld : ∀ {known reports state} (world : W), P known reports state →
    P known reports { state with world }

/-- **Invariants hold at the end of a script.** What the script yields it knows, if it
always yields something known. -/
theorem Invariant.run {nested : Applying W} {invocation : Invocation}
    {P : List Program → List Diagnostic → RunState W → Prop}
    (keeps : Invariant nested invocation P) (script : Script W Program)
    (known : List Program) (reports : List Diagnostic) {state : RunState W}
    (h : P known reports state) :
    ∃ known' reports', P known' reports' (script.run nested invocation reports state).2 ∧
      ∀ output reported,
        (script.run nested invocation reports state).1 = .ok (output, reported) →
          reported = reports' ∧ (script.YieldsFrom known → output ∈ known') := by
  -- along the script; a step other than a derivation leaves what is known as it was
  induction script generalizing known reports state with
  | done program =>
    refine ⟨known, reports, h, fun output reported heq => ?_⟩
    obtain ⟨rfl, rfl⟩ := Prod.mk.inj (Except.ok.inj heq)
    exact ⟨rfl, id⟩
  | fail failure => exact ⟨known, reports, h, fun _ _ heq => nomatch heq⟩
  | addFile name text next ih => exact ih _ _ (keeps.addFile name text h)
  | report d next ih => exact ih _ _ (keeps.report d h)
  | originRoots next ih =>
    obtain ⟨known', reports', hP, hval⟩ := ih _ _ _ (keeps.originRoots h)
    exact ⟨known', reports', hP, fun output reported heq =>
      (hval output reported heq).imp_right fun hy hall => hy (hall _)⟩
  | derive roots next ih =>
    -- the answer of the derivation decides both what is run next and what is known
    obtain ⟨known', reports', hP, hval⟩ := ih _ _ _ (keeps.derive roots h)
    exact ⟨known', reports', hP, fun output reported heq =>
      (hval output reported heq).imp_right fun hy hall => hy (hall _)⟩
  | build roots options next ih =>
    obtain ⟨known', reports', hP, hval⟩ := ih _ _ _ (keeps.build roots options h)
    exact ⟨known', reports', hP, fun output reported heq =>
      (hval output reported heq).imp_right fun hy hall => hy (hall _)⟩
  | files next ih =>
    obtain ⟨known', reports', hP, hval⟩ := ih _ _ _ h
    exact ⟨known', reports', hP, fun output reported heq =>
      (hval output reported heq).imp_right fun hy hall => hy (hall _)⟩
  | readWorld next ih =>
    obtain ⟨known', reports', hP, hval⟩ := ih _ _ _ h
    exact ⟨known', reports', hP, fun output reported heq =>
      (hval output reported heq).imp_right fun hy hall => hy (hall _)⟩
  | writeWorld world next ih => exact ih _ _ (keeps.writeWorld world h)

end Script

/-! ### Invocations and the loop over the transforms -/

/-- **An invocation returns or fails.** Either its script yields an output, which is then
settled, or it fails, and the state is the one in which it did. -/
theorem invoke_cases (nested : Applying W) (transform : ProgramTransform W)
    (invocation : Invocation) (state : RunState W) :
    (∃ output reports final,
      (transform invocation).run nested invocation [] (state.note (.began invocation)) =
        (.ok (output, reports), final) ∧
      invoke nested transform invocation state =
        (.ok output, final.settle invocation output reports)) ∨
    (∃ failure final,
      (transform invocation).run nested invocation [] (state.note (.began invocation)) =
        (.error failure, final) ∧
      invoke nested transform invocation state =
        (.error failure, final.note (.failed invocation failure))) := by
  unfold invoke
  rcases (transform invocation).run nested invocation [] (state.note (.began invocation))
    with ⟨⟨⟩ | ⟨output, reports⟩, final⟩
  · exact .inr ⟨_, _, rfl, rfl⟩
  · exact .inl ⟨_, _, _, rfl, rfl⟩

/-- The transform of whole programs that a module makes of a script. -/
def ResolvedTransform.ofScript (module : String) (script : ProgramTransform W) :
    ResolvedTransform W :=
  ⟨PluginDescriptor.withKind { module } .program, .program script⟩

/-- What the loop invokes a transform with. -/
def ResolvedTransform.invocationOn (t : ResolvedTransform W) (program : Program) :
    Invocation :=
  ⟨program, t.identity, t.descriptor.config⟩

variable {nested : Applying W} {t : ResolvedTransform W} {rest : List (ResolvedTransform W)}
variable {program : Program} {state : RunState W}

theorem applyAll_cons_of_applied (h : t.identity ∈ state.lineage.applied program.id) :
    applyAll nested (t :: rest) program state = applyAll nested rest program state := by
  rw [applyAll, if_pos (Lineage.isApplied_iff.mpr h)]

theorem applyAll_cons_of_other (h : ∀ transform, t.value ≠ .program transform) :
    applyAll nested (t :: rest) program state = applyAll nested rest program state := by
  rw [applyAll]
  split
  · rfl
  · split
    · next transform heq => exact absurd heq (h transform)
    · rfl

theorem applyAll_cons_of_new {transform : ProgramTransform W}
    (h : t.identity ∉ state.lineage.applied program.id) (hv : t.value = .program transform) :
    applyAll nested (t :: rest) program state =
      match invoke nested transform (t.invocationOn program) state with
      | (.ok output, final) => applyAll nested rest output final
      | (.error failure, final) => (.error (.transformer failure), final) := by
  rw [applyAll, if_neg (fun ha => h (Lineage.isApplied_iff.mp ha)), hv]
  rfl

/-- **One turn of the loop.** A transform that was applied already, or that is none of
whole programs, is passed over; any other is invoked. -/
theorem applyAll_cons_cases (nested : Applying W) (t : ResolvedTransform W)
    (rest : List (ResolvedTransform W)) (program : Program) (state : RunState W) :
    applyAll nested (t :: rest) program state = applyAll nested rest program state ∨
    ∃ transform, t.value = .program transform ∧
      t.identity ∉ state.lineage.applied program.id := by
  by_cases ha : t.identity ∈ state.lineage.applied program.id
  · exact .inl (applyAll_cons_of_applied ha)
  · by_cases hv : ∃ transform, t.value = .program transform
    · obtain ⟨transform, hv⟩ := hv
      exact .inr ⟨transform, hv, ha⟩
    · exact .inl (applyAll_cons_of_other (fun transform h => hv ⟨transform, h⟩))

end TransformerEngine
