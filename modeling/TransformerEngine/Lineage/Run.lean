import TransformerEngine.Plugin.Loading

/-!
# Applying program transforms

Applying a list of program transforms to a program hands it from one to the next: each
transform that was not yet applied along the program's line is invoked, and what it
returns inherits the line and has the transform added to it. What an invocation reports
is kept aside until it returns and then added to the line of its result; an invocation
that fails leaves nothing behind.

While a transform runs it may derive programs of its own. A derived program joins the
line at once, with the running transform counted as applied, and goes through the whole
list again before the transform sees it. So each level of derivation leaves fewer
transforms to apply, and as many levels as there are transforms are enough
(`applyWithin`).

The `journal` of a run lists what happened in it, in order.
-/

namespace TransformerEngine

/-- Something that happened in a run. -/
inductive RunEvent where
  /-- A transform was invoked. -/
  | began (invocation : Invocation)
  /-- It asked for the root names that its line started from. -/
  | askedOrigin (invocation : Invocation) (roots : List String)
  /-- It handed derived programs a file. -/
  | addedFile (invocation : Invocation) (name text : String)
  /-- It reported a diagnostic. -/
  | reported (invocation : Invocation) (d : Diagnostic)
  /-- It derived a program, which is yet to be transformed. -/
  | derived (invocation : Invocation) (child : Program)
  /-- It returned a program. -/
  | returned (invocation : Invocation) (output : Program)
  /-- It failed. -/
  | failed (invocation : Invocation) (failure : Failure)

/-- What a run works on. -/
structure RunState (W : Type) where
  /-- The lineages of all programs. -/
  lineage : Lineage
  /-- The files that derived programs are made from: those that transforms added, over
  the caller's. -/
  overlay : MemoryHost
  /-- The number of the next program. -/
  nextId : ProgramId
  /-- The world of the transforms. -/
  world : W
  /-- What happened so far, in order. -/
  journal : List RunEvent := []

namespace RunState

variable {W : Type}

/-- The state with an event more. -/
def note (state : RunState W) (event : RunEvent) : RunState W :=
  { state with journal := state.journal ++ [event] }

/-- Make a program from the overlay's files. -/
def newProgram (state : RunState W) (roots : List String) (options : CompilerOptions) :
    Program × RunState W :=
  (Program.create roots options state.overlay.toHost state.nextId,
    { state with nextId := state.nextId.next })

end RunState

/-- Transforming a program in a state: the result, and the state afterwards. -/
abbrev Applying (W : Type) :=
  Program → RunState W → Except PluginError Program × RunState W

variable {W : Type}

/-- Run a script of an invocation. Derived programs are transformed by `nested`; reports
are collected behind `reports`. -/
def Script.run {α : Type} (nested : Applying W) (invocation : Invocation) :
    Script W α → (reports : List Diagnostic) → RunState W →
      Except Failure (α × List Diagnostic) × RunState W
  | done value, reports, state => (.ok (value, reports), state)
  | fail failure, _, state => (.error failure, state)
  | addFile name text next, reports, state =>
    next.run nested invocation reports
      ({ state with overlay := state.overlay.write name text }.note
        (.addedFile invocation name text))
  | report d next, reports, state =>
    next.run nested invocation (reports ++ [d]) (state.note (.reported invocation d))
  | originRoots next, reports, state =>
    let roots := state.lineage.originRoots invocation.input
    (next roots).run nested invocation reports (state.note (.askedOrigin invocation roots))
  | derive roots next, reports, state =>
    let (child, state) := state.newProgram roots invocation.input.options
    let lineage := state.lineage.inherit invocation.input child [invocation.identity]
    let (result, state) := nested child ({ state with lineage }.note (.derived invocation child))
    (next result).run nested invocation reports state
  | build roots options next, reports, state =>
    let (program, state) := state.newProgram roots options
    (next program).run nested invocation reports state
  | files next, reports, state => (next state.overlay).run nested invocation reports state
  | readWorld next, reports, state => (next state.world).run nested invocation reports state
  | writeWorld world next, reports, state =>
    next.run nested invocation reports { state with world }

/-- Invoke a transform. What it returns inherits the line of its input, and what it
reported is added. -/
def invoke (nested : Applying W) (transform : ProgramTransform W) (invocation : Invocation)
    (state : RunState W) : Except Failure Program × RunState W :=
  match (transform invocation).run nested invocation [] (state.note (.began invocation)) with
  | (.ok (output, reports), state) =>
    let joined := state.lineage.inherit invocation.input output [invocation.identity]
    let lineage := joined.reportAll output reports
    (.ok output, { state with lineage }.note (.returned invocation output))
  | (.error failure, state) => (.error failure, state.note (.failed invocation failure))

/-- Hand a program from transform to transform, past those applied along its line
already; the first failure ends the run. -/
def applyAll (nested : Applying W) : List (ResolvedTransform W) → Applying W
  | [], program, state => (.ok program, state)
  | t :: rest, program, state =>
    if state.lineage.isApplied program.id t.identity then applyAll nested rest program state
    else
      match t.value with
      | .program transform =>
        match invoke nested transform ⟨program, t.identity, t.descriptor.config⟩ state with
        | (.ok output, state) => applyAll nested rest output state
        | (.error failure, state) => (.error (.transformer failure), state)
      | _ => applyAll nested rest program state

/-- Apply transforms with derivations at most `depth` deep. Below that no transform is
left that was not applied already. -/
def applyWithin (transforms : List (ResolvedTransform W)) : (depth : Nat) → Applying W
  | 0, program, state => (.ok program, state)
  | depth + 1, program, state =>
    applyAll (applyWithin transforms depth) transforms program state

/-- Apply transforms in order. -/
def applyTransforms (transforms : List (ResolvedTransform W)) : Applying W :=
  applyWithin transforms transforms.length

/-- Those of the transforms that are transforms of whole programs. -/
def programTransforms (resolved : List (ResolvedTransform W)) : List (ResolvedTransform W) :=
  resolved.filter fun t => t.descriptor.isProgramTransform

end TransformerEngine
