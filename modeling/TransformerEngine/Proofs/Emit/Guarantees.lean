import TransformerEngine.Proofs.Emit.Trace

/-!
# Guarantees of transformers

Of most transformers little is known. What is known of one is a `Guarantee`: a relation between
the files that it was given before, the file that it is given, and the result. A `Promise` is a
guarantee together with the files so far. Transformers of a phase that keep promises take a file
along results that the promises allow, and then keep promises about the files that follow
(`Allows`, `runPhase_allows`).

`written_promised` carries this over a whole emission: each file is written along a `Passage`
that is `Under` the promises, and the promises for a file know of all files before it
(`PassagesUnder`). What is to be said of an emission whose transformers are known to some extent
can so be said of such passages.
-/

namespace TransformerEngine

variable {W : Type}

/-! ### What a step always comes to -/

/-- In every stage with the given options, the step comes to a value with `P` and leaves the
options as they are. -/
def Always {α : Type} (given : CompilerOptions) (P : α → Prop) (m : StateM (Stage W) α) : Prop :=
  ∀ stage : Stage W, stage.context.options = given →
    P (m.run stage).1 ∧ (m.run stage).2.context.options = given

section Steps

variable {α β : Type} {given : CompilerOptions} {P : α → Prop} {Q : β → Prop}

theorem Always.pure {a : α} (h : P a) : Always given P (pure a : StateM (Stage W) α) :=
  fun _ hstage => ⟨h, hstage⟩

theorem Always.bind {m : StateM (Stage W) α} {f : α → StateM (Stage W) β}
    (h : Always given P m) (hnext : ∀ a, P a → Always given Q (f a)) :
    Always given Q (m >>= f) := by
  intro stage hstage
  obtain ⟨hvalue, hafter⟩ := h stage hstage
  exact hnext _ hvalue _ hafter

theorem perform_always {call : Call W α}
    (h : ∀ context world, context.options = given → P (call context world).value) :
    Always given P (perform call) :=
  fun stage hstage => ⟨h stage.context stage.world hstage, hstage⟩

theorem writeOutput_always (write : Writer W) (output : Output) :
    Always given (fun _ => True) (writeOutput write output) :=
  fun _ hstage => ⟨trivial, hstage⟩

end Steps

/-! ### Guarantees and promises -/

/-- What holds of the result when a transformer is given a file, after the files that it was
given before. -/
abbrev Guarantee := (seen : List SourceFile) → (file result : SourceFile) → Prop

/-- Where the options are the given ones, the transformer has the guarantee, whatever was
reported and whatever the world. -/
def TransformerHas (given : CompilerOptions) (t : Transformer W) (guarantee : Guarantee) : Prop :=
  ∀ seen file context world, context.options = given →
    guarantee seen file (t seen file context world).value

/-- Where the options are the given ones, every transformer that the factory makes has the
guarantee. -/
def FactoryHas (given : CompilerOptions) (factory : Factory W) (guarantee : Guarantee) : Prop :=
  ∀ context world, context.options = given →
    TransformerHas given (factory context world).value guarantee

/-- A guarantee, and the files that were given so far. -/
structure Promise where
  /-- What holds of each result. -/
  guarantee : Guarantee
  /-- The files given so far, in order. -/
  seen : List SourceFile := []

/-- The results that promises allow for a file which is handed on from each to the next, and the
promises afterwards. -/
inductive Allows : List Promise → SourceFile → List SourceFile → List Promise → Prop
  | nil {file : SourceFile} : Allows [] file [] []
  | cons {promise : Promise} {file result : SourceFile} {rest rest' : List Promise}
      {results : List SourceFile} (hresult : promise.guarantee promise.seen file result)
      (hrest : Allows rest result results rest') :
      Allows (promise :: rest) file (result :: results)
        ({ promise with seen := promise.seen ++ [file] } :: rest')

/-- What is good of the guarantees stays so. -/
theorem Allows.forall_guarantee {good : Guarantee → Prop} {promises promises' : List Promise}
    {file : SourceFile} {results : List SourceFile} (h : Allows promises file results promises')
    (hgood : ∀ promise ∈ promises, good promise.guarantee) :
    ∀ promise ∈ promises', good promise.guarantee := by
  induction h with
  | nil => exact hgood
  | cons _ _ ih =>
    obtain ⟨hfirst, hrest⟩ := List.forall_mem_cons.mp hgood
    exact List.forall_mem_cons.mpr ⟨hfirst, ih hrest⟩

/-- The factory makes transformers that keep the promise, and nothing was given to them yet. -/
structure FactoryKeeps (given : CompilerOptions) (factory : Factory W) (promise : Promise) :
    Prop where
  seen : promise.seen = []
  factory : FactoryHas given factory promise.guarantee

/-- The transformer at work keeps the promise. -/
structure ActiveTransformer.Keeps (given : CompilerOptions) (active : ActiveTransformer W)
    (promise : Promise) : Prop where
  seen : active.seen = promise.seen
  transformer : TransformerHas given active.transformer promise.guarantee

/-- The transformers at work, in order, keep the promises. -/
abbrev ActiveKeep (given : CompilerOptions) : List (ActiveTransformer W) → List Promise → Prop :=
  List.Forall₂ (ActiveTransformer.Keeps given)

section Phases

variable {given : CompilerOptions}

/-- What is guaranteed of each factory is promised by all of them together. -/
theorem exists_promises {allowed : CompilerOptions → Prop} {good : Guarantee → Prop}
    {factories : List (Factory W)}
    (h : ∀ factory ∈ factories, ∃ guarantee, good guarantee ∧
      ∀ given, allowed given → FactoryHas given factory guarantee) :
    ∃ promises, (∀ promise ∈ promises, good promise.guarantee) ∧
      ∀ given, allowed given → List.Forall₂ (FactoryKeeps given) factories promises := by
  induction factories with
  | nil => exact ⟨[], fun _ hpromise => absurd hpromise List.not_mem_nil, fun _ _ => .nil⟩
  | cons factory rest ih =>
    obtain ⟨⟨guarantee, hgood, hhas⟩, hrest⟩ := List.forall_mem_cons.mp h
    obtain ⟨promises, hall, hkeep⟩ := ih hrest
    refine ⟨⟨guarantee, []⟩ :: promises, List.forall_mem_cons.mpr ⟨hgood, hall⟩, ?_⟩
    exact fun given hgiven => .cons ⟨rfl, hhas given hgiven⟩ (hkeep given hgiven)

/-- Of any factories something is promised, if only that their transformers have results. -/
theorem exists_promises_of_any (factories : List (Factory W)) :
    ∃ promises, ∀ given, List.Forall₂ (FactoryKeeps given) factories promises := by
  have hfactories : ∀ factory ∈ factories, ∃ guarantee, True ∧
      ∀ given, True → FactoryHas given factory guarantee :=
    fun factory _ => ⟨fun _ _ _ => True, trivial, fun _ _ _ _ _ _ _ _ _ _ => trivial⟩
  obtain ⟨promises, -, hkeep⟩ := exists_promises hfactories
  exact ⟨promises, fun given => hkeep given trivial⟩

theorem instantiate_keeps {factories : List (Factory W)} {promises : List Promise}
    (h : List.Forall₂ (FactoryKeeps given) factories promises) :
    Always given (fun actives => ActiveKeep given actives promises) (instantiate factories) := by
  induction h with
  | nil => exact .pure .nil
  | @cons factory promise _ _ hfirst _ ih =>
    have hmakes : Always given (fun t => TransformerHas given t promise.guarantee)
        (perform factory) := perform_always hfirst.factory
    refine hmakes.bind fun t ht => ?_
    exact ih.bind fun others hothers => .pure (.cons ⟨hfirst.seen.symm, ht⟩ hothers)

/-- A transformer that keeps a promise makes what it allows of a file, and keeps the promise
about the files that follow. -/
theorem apply_keeps {active : ActiveTransformer W} {promise : Promise}
    (h : active.Keeps given promise) (file : SourceFile) :
    Always given (fun run => promise.guarantee promise.seen file run.1 ∧
        run.2.Keeps given { promise with seen := promise.seen ++ [file] })
      (active.apply file) := by
  obtain ⟨t, _⟩ := active
  obtain ⟨rfl, ht⟩ := h
  refine (perform_always (ht promise.seen file)).bind fun result hresult => ?_
  exact .pure ⟨hresult, rfl, ht⟩

/-- **A phase under promises.** The file comes out as the last of results that the promises
allow. -/
theorem runPhase_allows {actives : List (ActiveTransformer W)} {promises : List Promise}
    (h : ActiveKeep given actives promises) (file : SourceFile) :
    Always given (fun run => ∃ results promises', run.1 = results.getLastD file ∧
        Allows promises file results promises' ∧ ActiveKeep given run.2 promises')
      (runPhase actives file) := by
  induction h generalizing file with
  | nil => exact .pure ⟨[], [], rfl, .nil, .nil⟩
  | cons hfirst _ ih =>
    refine (apply_keeps hfirst file).bind ?_
    rintro ⟨result, active⟩ ⟨hresult, hactive⟩
    refine (ih result).bind ?_
    rintro ⟨last, rest⟩ ⟨results, promises', rfl, hallows, hrest⟩
    refine .pure ⟨result :: results, _, ?_, .cons hresult hallows, .cons hactive hrest⟩
    rw [List.getLastD_cons]

end Phases

/-! ### Kinds of output -/

/-- The phase that an output of a kind goes through before it is written. -/
def OutputKind.phase : OutputKind → Phase
  | .script => .after
  | .declaration => .afterDeclarations

/-- The kinds of output that are written of each file, in order. -/
def CompilerOptions.outputKinds (options : CompilerOptions) : List OutputKind :=
  .script :: if options.declaration = some true then [.declaration] else []

/-- The transformers at work on the outputs of a kind. -/
def ActiveGroup.outputPhase (active : ActiveGroup W) : OutputKind → List (ActiveTransformer W)
  | .script => active.after
  | .declaration => active.afterDeclarations

namespace Passage

/-- What the transformers of an output made of the transformed file, one after the other. -/
def results (p : Passage) : OutputKind → List SourceFile
  | .script => p.after
  | .declaration => p.afterDeclarations

/-- The output of a kind that is written on the way. -/
def output (p : Passage) (options : CompilerOptions) (kind : OutputKind) : Output :=
  .ofFile ((p.results kind).getLastD (p.named options kind))

theorem outputs_eq (p : Passage) (options : CompilerOptions) :
    p.outputs options = options.outputKinds.map (p.output options) := by
  rw [outputs, CompilerOptions.outputKinds]
  split <;> rfl

end Passage

/-! ### Emissions under promises -/

/-- The promises of a group: those of the `before` transformers, and those of the transformers
of each kind of output. -/
structure GroupPromises where
  /-- The promises of the `before` transformers. -/
  before : List Promise
  /-- The promises of the transformers of a kind of output. -/
  output : OutputKind → List Promise

/-- The factories of the group make transformers that keep the promises. -/
structure TransformerGroup.Keeps (given : CompilerOptions) (group : TransformerGroup W)
    (promises : GroupPromises) : Prop where
  before : List.Forall₂ (FactoryKeeps given) group.before promises.before
  output : ∀ kind : OutputKind,
    List.Forall₂ (FactoryKeeps given) (group.phase kind.phase) (promises.output kind)

/-- The transformers at work keep the promises. -/
structure ActiveGroup.Keeps (given : CompilerOptions) (active : ActiveGroup W)
    (promises : GroupPromises) : Prop where
  before : ActiveKeep given active.before promises.before
  output : ∀ kind, ActiveKeep given (active.outputPhase kind) (promises.output kind)

/-- The promises allow the passage, and there are those promises afterwards. -/
structure Passage.Under (options : CompilerOptions) (promises : GroupPromises) (p : Passage)
    (promises' : GroupPromises) : Prop where
  before : Allows promises.before p.source p.before promises'.before
  output : ∀ kind ∈ options.outputKinds,
    Allows (promises.output kind) (p.named options kind) (p.results kind) (promises'.output kind)

/-- The promises allow the passages, one after the other. -/
inductive PassagesUnder (options : CompilerOptions) : GroupPromises → List Passage → Prop
  | nil {promises : GroupPromises} : PassagesUnder options promises []
  | cons {promises promises' : GroupPromises} {p : Passage} {rest : List Passage}
      (hfirst : p.Under options promises promises') (hrest : PassagesUnder options promises' rest) :
      PassagesUnder options promises (p :: rest)

section Emissions

variable {given : CompilerOptions} {promises : GroupPromises}

/-- What is guaranteed of each factory of a group, phase by phase, is promised by the group. -/
theorem exists_groupPromises {good : Phase → Guarantee → Prop} {group : TransformerGroup W}
    (h : ∀ phase, ∀ factory ∈ group.phase phase, ∃ guarantee, good phase guarantee ∧
      FactoryHas given factory guarantee) :
    ∃ promises : GroupPromises, group.Keeps given promises ∧
      (∀ promise ∈ promises.before, good .before promise.guarantee) ∧
      ∀ kind, ∀ promise ∈ promises.output kind, good kind.phase promise.guarantee := by
  have hphase : ∀ phase, ∃ promises, (∀ promise ∈ promises, good phase promise.guarantee) ∧
      List.Forall₂ (FactoryKeeps given) (group.phase phase) promises := by
    intro phase
    have hfactories : ∀ factory ∈ group.phase phase, ∃ guarantee, good phase guarantee ∧
        ∀ options, options = given → FactoryHas options factory guarantee := by
      intro factory hfactory
      obtain ⟨guarantee, hgood, hhas⟩ := h phase factory hfactory
      exact ⟨guarantee, hgood, fun options hoptions => hoptions ▸ hhas⟩
    obtain ⟨promises, hall, hkeep⟩ := exists_promises hfactories
    exact ⟨promises, hall, hkeep given rfl⟩
  choose promises hall hkeep using hphase
  exact ⟨⟨promises .before, fun kind => promises kind.phase⟩,
    ⟨hkeep .before, fun kind => hkeep kind.phase⟩, hall .before, fun kind => hall kind.phase⟩

theorem groupInstantiate_keeps {group : TransformerGroup W} (h : group.Keeps given promises) :
    Always given (fun active => active.Keeps given promises) group.instantiate := by
  refine (instantiate_keeps h.before).bind fun before hbefore => ?_
  refine (instantiate_keeps (h.output .script)).bind fun after hafter => ?_
  refine (instantiate_keeps (h.output .declaration)).bind fun last hlast => ?_
  refine .pure ⟨hbefore, fun kind => ?_⟩
  cases kind with
  | script => exact hafter
  | declaration => exact hlast

/-- **A file under promises.** It is emitted along a passage that the promises allow. -/
theorem emitFile_under (options : CompilerOptions) (write : Writer W) {active : ActiveGroup W}
    (h : active.Keeps given promises) (file : SourceFile) :
    Always given (fun run => ∃ (p : Passage) (promises' : GroupPromises), p.source = file ∧
        run.1 = p.outputs options ∧ p.Under options promises promises' ∧
        run.2.Keeps given promises')
      (emitFile options write active file) := by
  refine (runPhase_allows h.before file).bind ?_
  rintro ⟨transformed, actives⟩ ⟨before, promises₁, rfl, hbefore, hactives⟩
  refine (runPhase_allows (h.output .script) _).bind ?_
  rintro ⟨script, actives'⟩ ⟨after, promises₂, rfl, hafter, hactives'⟩
  refine (writeOutput_always write _).bind fun _ _ => ?_
  by_cases hdeclaration : options.declaration = some true
  · simp only [if_pos hdeclaration]
    refine (runPhase_allows (h.output .declaration) _).bind ?_
    rintro ⟨declaration, actives''⟩ ⟨last, promises₃, rfl, hlast, hactives''⟩
    refine (writeOutput_always write _).bind fun _ _ => ?_
    let promises' : GroupPromises :=
      ⟨promises₁, fun | .script => promises₂ | .declaration => promises₃⟩
    refine .pure ⟨⟨file, before, after, last⟩, promises', rfl, ?_, ⟨hbefore, ?_⟩, hactives, ?_⟩
    · rw [Passage.outputs, if_pos hdeclaration]
      rfl
    · intro kind _
      cases kind with
      | script => exact hafter
      | declaration => exact hlast
    · intro kind
      cases kind with
      | script => exact hactives'
      | declaration => exact hactives''
  · simp only [if_neg hdeclaration]
    -- nothing is given to the transformers of declarations
    let promises' : GroupPromises :=
      ⟨promises₁, fun | .script => promises₂ | .declaration => promises.output .declaration⟩
    refine .pure ⟨⟨file, before, after, []⟩, promises', rfl, ?_, ⟨hbefore, ?_⟩, hactives, ?_⟩
    · rw [Passage.outputs, if_neg hdeclaration]
      rfl
    · intro kind hkind
      rw [CompilerOptions.outputKinds, if_neg hdeclaration] at hkind
      obtain rfl := List.mem_singleton.mp hkind
      exact hafter
    · intro kind
      cases kind with
      | script => exact hactives'
      | declaration => exact h.output .declaration

/-- Files are emitted one after the other along passages that the promises allow. -/
theorem emitFiles_under (options : CompilerOptions) (write : Writer W) {active : ActiveGroup W}
    (h : active.Keeps given promises) (files : List SourceFile) :
    Always given (fun outputs => ∃ passages : List Passage, passages.map Passage.source = files ∧
        PassagesUnder options promises passages ∧
        outputs = passages.flatMap fun p => p.outputs options)
      (emitFiles options write active files) := by
  induction files generalizing active promises with
  | nil => exact .pure ⟨[], rfl, .nil, rfl⟩
  | cons file rest ih =>
    refine (emitFile_under options write h file).bind ?_
    rintro ⟨outputs, active'⟩ ⟨p, promises', rfl, rfl, hunder, hactive⟩
    refine (ih hactive).bind ?_
    rintro others ⟨passages, rfl, hpassages, rfl⟩
    exact .pure ⟨p :: passages, rfl, .cons hunder hpassages, rfl⟩

namespace Program

/-- What the writer is handed in an emission of the program, in order. -/
def written (program : Program) (target : Option SourceFile) (group : TransformerGroup W)
    (write : Writer W) (context : TransformationContext) (world : W) : List Output :=
  writtenBy ((program.emitEvents target group write context world).map EmitEvent.action)

variable {program : Program} {group : TransformerGroup W} {context : TransformationContext}

theorem written_of_skips (target : Option SourceFile) (group : TransformerGroup W)
    (write : Writer W) (context : TransformationContext) (world : W)
    (h : program.skipsEmit = true) : program.written target group write context world = [] := by
  rw [written, emitEvents_of_skips target group write context world h]
  rfl

/-- **An emission under promises.** What is written comes from passages of the files, one after
the other, that the promises of the group allow. -/
theorem written_promised (hskips : program.skipsEmit = false)
    (h : group.Keeps context.options promises) (target : Option SourceFile) (write : Writer W)
    (world : W) :
    ∃ passages : List Passage, passages.map Passage.source = program.emittedSources target ∧
      PassagesUnder program.options promises passages ∧
      program.written target group write context world =
        passages.flatMap fun p => p.outputs program.options := by
  have hrun : Always context.options (fun run => ∃ passages : List Passage,
      passages.map Passage.source = program.emittedSources target ∧
      PassagesUnder program.options promises passages ∧
      run.2 = passages.flatMap fun p => p.outputs program.options)
      (program.emitOutputs target group write) := by
    rw [emitOutputs, if_neg (by rw [hskips]; decide)]
    refine (groupInstantiate_keeps h).bind fun active hactive => ?_
    exact (emitFiles_under _ write hactive _).bind fun outputs houtputs => .pure houtputs
  rw [written, ← emitOutputs_written]
  exact (hrun { context, world } rfl).1

end Program

end Emissions

end TransformerEngine
