import TransformerEngine.Proofs.Emit.Likeness

/-!
# Watching an emission

An emission is seen from outside through the code that it calls. So that what is seen can be
stated, the code is watched: it works as before, but in a world with a record beside it, in
which every call of a factory, every run of a transformer and every output is written down
(`TransformerGroup.observed`, `observeWriter`). The record of a watched emission is what is
seen of the emission (`Program.emitEvents`); watching changes nothing else
(`emitOutputs_watched`), since watched code is like the code that is watched.

A record is `Coherent` if it says with each call that it was made in the context of the
emission, with all that had been reported by then in it, and with each run of a transformer
that it was handed all its earlier files with the new one.
-/

namespace TransformerEngine

variable {W : Type}

/-! ### What can be seen -/

/-- What the code around an emission sees of it. -/
inductive EmitEvent where
  /-- The factory at a place of a phase was called, in a context, and reported. -/
  | called (phase : Phase) (index : Nat) (context : TransformationContext)
      (reports : List Diagnostic)
  /-- The transformer at a place of a phase was handed a file in a context, after the files
  that it had seen. It made a file of it, and reported. -/
  | ran (phase : Phase) (index : Nat) (context : TransformationContext) (seen : List SourceFile)
      (file result : SourceFile) (reports : List Diagnostic)
  /-- An output was written. -/
  | wrote (output : Output)

/-- What an emission does, whatever is reported on the way. -/
inductive EmitAction where
  /-- Call the factory at a place of a phase. -/
  | call (phase : Phase) (index : Nat)
  /-- Run the transformer at a place of a phase on a file, with its result. -/
  | run (phase : Phase) (index : Nat) (file result : SourceFile)
  /-- Write an output. -/
  | write (output : Output)
deriving DecidableEq

/-- The action behind an event. -/
def EmitEvent.action : EmitEvent → EmitAction
  | called phase index _ _ => .call phase index
  | ran phase index _ _ file result _ => .run phase index file result
  | wrote output => .write output

/-- What was reported in an event. -/
def EmitEvent.reports : EmitEvent → List Diagnostic
  | called _ _ _ reports => reports
  | ran _ _ _ _ _ _ reports => reports
  | wrote _ => []

/-- All that was reported in events, in order. -/
def reportedIn (events : List EmitEvent) : List Diagnostic := events.flatMap EmitEvent.reports

/-- The outputs that are written, in order. -/
def writtenBy (actions : List EmitAction) : List Output :=
  actions.filterMap fun
    | .write output => some output
    | _ => none

/-- The files that the transformer at a place of a phase is handed, in order. -/
def givenTo (phase : Phase) (index : Nat) (actions : List EmitAction) : List SourceFile :=
  actions.filterMap fun
    | .run phase' index' file _ => if phase' = phase ∧ index' = index then some file else none
    | _ => none

/-- The context after events: what they reported is in it. -/
def TransformationContext.after (context : TransformationContext) (events : List EmitEvent) :
    TransformationContext :=
  { context with diagnostics := context.diagnostics ++ reportedIn events }

/-- A call is made in the context as it is after the events before it, and a transformer is
handed all its files so far. -/
def EmitEvent.Follows (start : TransformationContext) (earlier : List EmitEvent) :
    EmitEvent → Prop
  | called _ _ context _ => context = start.after earlier
  | ran phase index context seen _ _ _ =>
    context = start.after earlier ∧ seen = givenTo phase index (earlier.map EmitEvent.action)
  | wrote _ => True

/-- Every event follows the events before it. -/
def Coherent (start : TransformationContext) (events : List EmitEvent) : Prop :=
  ∀ earlier event later, events = earlier ++ event :: later → event.Follows start earlier

section Records

theorem after_nil (context : TransformationContext) : context.after [] = context := by
  rw [TransformationContext.after]
  exact congrArg (TransformationContext.mk context.options) (List.append_nil _)

theorem after_concat (context : TransformationContext) (events : List EmitEvent)
    (event : EmitEvent) :
    context.after (events ++ [event]) =
      { context.after events with
        diagnostics := (context.after events).diagnostics ++ event.reports } := by
  simp only [TransformationContext.after, reportedIn, List.flatMap_append, List.flatMap_cons,
    List.flatMap_nil, List.append_nil, List.append_assoc]

theorem coherent_nil (start : TransformationContext) : Coherent start [] := by
  intro earlier event later h
  exact absurd h.symm (by simp)

theorem Coherent.concat {start : TransformationContext} {events : List EmitEvent}
    (h : Coherent start events) {event : EmitEvent} (hevent : event.Follows start events) :
    Coherent start (events ++ [event]) := by
  intro earlier event' later hsplit
  rcases List.eq_nil_or_concat later with rfl | ⟨later', last, rfl⟩
  · -- the new event itself
    obtain ⟨rfl, hlast⟩ := List.append_inj' hsplit rfl
    obtain rfl : event = event' := List.head_eq_of_cons_eq hlast
    exact hevent
  · -- an event before it
    have hinit : events ++ [event] = (earlier ++ event' :: later') ++ [last] := by
      rw [hsplit]
      simp
    exact h earlier event' later' (List.append_inj' hinit rfl).1

theorem givenTo_append (phase : Phase) (index : Nat) (actions more : List EmitAction) :
    givenTo phase index (actions ++ more) =
      givenTo phase index actions ++ givenTo phase index more :=
  List.filterMap_append

theorem writtenBy_append (actions more : List EmitAction) :
    writtenBy (actions ++ more) = writtenBy actions ++ writtenBy more :=
  List.filterMap_append

end Records

/-! ### Watching -/

/-- The transformer, watched from a place of a phase. -/
def observeTransformer (phase : Phase) (index : Nat) (transformer : Transformer W) :
    Transformer (W × List EmitEvent) := fun seen file context (world, events) =>
  let reply := transformer seen file context world
  { value := reply.value
    reports := reply.reports
    world := (reply.world,
      events ++ [.ran phase index context seen file reply.value reply.reports]) }

/-- The factory, watched from a place of a phase, with the transformer that it makes. -/
def observeFactory (phase : Phase) (index : Nat) (factory : Factory W) :
    Factory (W × List EmitEvent) := fun context (world, events) =>
  let reply := factory context world
  { value := observeTransformer phase index reply.value
    reports := reply.reports
    world := (reply.world, events ++ [.called phase index context reply.reports]) }

/-- The factories, watched from a place of a phase on. -/
def observeFactories (phase : Phase) : Nat → List (Factory W) → List (Factory (W × List EmitEvent))
  | _, [] => []
  | index, factory :: rest =>
    observeFactory phase index factory :: observeFactories phase (index + 1) rest

/-- The group, watched. -/
def TransformerGroup.observed (group : TransformerGroup W) :
    TransformerGroup (W × List EmitEvent) where
  before := observeFactories .before 0 group.before
  after := observeFactories .after 0 group.after
  afterDeclarations := observeFactories .afterDeclarations 0 group.afterDeclarations

/-- The writer, watched. -/
def observeWriter (write : Writer W) : Writer (W × List EmitEvent) := fun output (world, events) =>
  (write output world, events ++ [.wrote output])

namespace Program

/-- The watched emission of a program, from an empty record. -/
def watchedEmission (program : Program) (target : Option SourceFile) (group : TransformerGroup W)
    (write : Writer W) (context : TransformationContext) (world : W) :
    (EmitResult × List Output) × Stage (W × List EmitEvent) :=
  (program.emitOutputs target group.observed (observeWriter write)).run
    { context, world := (world, []) }

/-- What is seen of the emission of a program. -/
def emitEvents (program : Program) (target : Option SourceFile) (group : TransformerGroup W)
    (write : Writer W) (context : TransformationContext) (world : W) : List EmitEvent :=
  (program.watchedEmission target group write context world).2.world.2

end Program

section Erasure

/-- The first world is the second with a record beside it. -/
def Recording (v : W × List EmitEvent) (w : W) : Prop := v.1 = w

theorem observeFactories_alike (phase : Phase) (index : Nat) (factories : List (Factory W)) :
    List.Forall₂ (FactoriesAlike Recording) (observeFactories phase index factories)
      factories := by
  induction factories generalizing index with
  | nil => exact .nil
  | cons factory rest ih =>
    refine .cons ?_ (ih (index + 1))
    rintro context ⟨world, events⟩ _ rfl
    refine ⟨fun seen file context' v w hw => ?_, rfl, rfl⟩
    obtain rfl : v.1 = w := hw
    exact ⟨rfl, rfl, rfl⟩

/-- **Watching changes nothing**: without the record, the watched emission is the emission. -/
theorem emitOutputs_watched (program : Program) (target : Option SourceFile)
    (group : TransformerGroup W) (write : Writer W) (context : TransformationContext) (world : W) :
    let watched := program.watchedEmission target group write context world
    (program.emitOutputs target group write).run { context, world } =
      (watched.1, { context := watched.2.context, world := watched.2.world.1 }) := by
  have hgroup : GroupsAlike Recording group.observed group := fun phase => by
    cases phase <;> exact observeFactories_alike _ 0 _
  have hwrite : WritersAlike Recording (observeWriter write) write := by
    rintro output ⟨world, events⟩ _ rfl
    rfl
  obtain ⟨hresult, hstage⟩ := emitOutputs_alike program target hgroup hwrite
    { context, world := (world, []) } { context, world } ⟨rfl, rfl⟩
  obtain ⟨hcontext, hworld⟩ := hstage
  exact Prod.ext hresult.symm (congrArg₂ Stage.mk hcontext.symm hworld.symm)

end Erasure

end TransformerEngine
