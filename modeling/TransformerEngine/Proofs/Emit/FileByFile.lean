import TransformerEngine.Proofs.Emit.Guarantees

/-!
# Emitting file by file

Whether a program is emitted at once or one file after the other makes no difference to
transformers that keep no state. They make one change of each file together, whatever they were
given before (`MakeChange`, `Allows.change`), so that what is written of a file depends on the
file alone (`Program.exists_outputs`). `emission_file_by_file` compares the two ways: the
factories are called once for all files or once for each, in contexts and worlds that may
differ, and the same is written in the same order.
-/

namespace TransformerEngine

variable {W : Type}

/-! ### Transformers without state -/

/-- The guarantee that a file is changed without regard for anything else. -/
def changesBy (change : SourceFile → SourceFile) : Guarantee := fun _ file result =>
  result = change file

/-- Where the options are the given ones, what the transformers of the factory make of a file
depends on the file alone. -/
def FactoryStateless (given : CompilerOptions) (factory : Factory W) : Prop :=
  ∃ change : SourceFile → SourceFile, FactoryHas given factory (changesBy change)

/-- The factories of the group, in all phases, make transformers without state. -/
def TransformerGroup.Stateless (given : CompilerOptions) (group : TransformerGroup W) : Prop :=
  ∀ phase, ∀ factory ∈ group.phase phase, FactoryStateless given factory

/-- The promises are about one change of a file after the other; together they make a change. -/
inductive MakeChange : List Promise → (SourceFile → SourceFile) → Prop
  | nil : MakeChange [] id
  | cons {rest : List Promise} {others : SourceFile → SourceFile}
      (change : SourceFile → SourceFile) (seen : List SourceFile)
      (hrest : MakeChange rest others) : MakeChange (⟨changesBy change, seen⟩ :: rest)
        (others ∘ change)

theorem exists_makeChange {promises : List Promise}
    (h : ∀ promise ∈ promises, ∃ change, promise.guarantee = changesBy change) :
    ∃ change, MakeChange promises change := by
  induction promises with
  | nil => exact ⟨id, .nil⟩
  | cons promise rest ih =>
    obtain ⟨⟨change, hchange⟩, hrest⟩ := List.forall_mem_cons.mp h
    obtain ⟨others, hothers⟩ := ih hrest
    obtain ⟨guarantee, seen⟩ := promise
    obtain rfl : guarantee = changesBy change := hchange
    exact ⟨others ∘ change, .cons change seen hothers⟩

/-- What comes out of a phase is the change of what went in, and so it stays. -/
theorem Allows.change {promises promises' : List Promise} {file : SourceFile}
    {results : List SourceFile} (h : Allows promises file results promises')
    {change : SourceFile → SourceFile} (hchange : MakeChange promises change) :
    results.getLastD file = change file ∧ MakeChange promises' change := by
  induction h generalizing change with
  | nil =>
    cases hchange
    exact ⟨rfl, .nil⟩
  | cons hresult _ ih =>
    cases hchange with
    | cons first seen hrest =>
      obtain ⟨hlast, hothers⟩ := ih hrest
      rw [List.getLastD_cons, hlast, show _ = first _ from hresult]
      exact ⟨rfl, .cons first _ hothers⟩

/-! ### What is written of a file -/

/-- The changes that a group makes: before the outputs are formed, and of each kind of output. -/
structure GroupChanges where
  /-- The change before the outputs are formed. -/
  before : SourceFile → SourceFile
  /-- The change of an output of a kind. -/
  output : OutputKind → SourceFile → SourceFile

/-- The outputs of a file that is changed so. -/
def GroupChanges.outputs (changes : GroupChanges) (options : CompilerOptions)
    (file : SourceFile) : List Output :=
  options.outputKinds.map fun kind => .ofFile <| changes.output kind <|
    (changes.before file).withName (outputName file.name options.outDir kind)

/-- The promises of the group are about these changes. -/
structure GroupPromises.Make (options : CompilerOptions) (promises : GroupPromises)
    (changes : GroupChanges) : Prop where
  before : MakeChange promises.before changes.before
  output : ∀ kind ∈ options.outputKinds, MakeChange (promises.output kind) (changes.output kind)

section Outputs

variable {options : CompilerOptions} {promises promises' : GroupPromises} {changes : GroupChanges}

theorem Passage.Under.outputs_eq {p : Passage} (h : p.Under options promises promises')
    (hmake : promises.Make options changes) :
    p.outputs options = changes.outputs options p.source ∧ promises'.Make options changes := by
  obtain ⟨htransformed, hbefore⟩ := h.before.change hmake.before
  have houtput : ∀ kind ∈ options.outputKinds,
      p.output options kind = .ofFile (changes.output kind
        ((changes.before p.source).withName (outputName p.source.name options.outDir kind))) ∧
      MakeChange (promises'.output kind) (changes.output kind) := by
    intro kind hkind
    obtain ⟨hlast, hafter⟩ := (h.output kind hkind).change (hmake.output kind hkind)
    refine ⟨?_, hafter⟩
    rw [Passage.output, hlast, Passage.named, Passage.transformed, htransformed]
  refine ⟨?_, hbefore, fun kind hkind => (houtput kind hkind).2⟩
  rw [Passage.outputs_eq]
  exact List.map_congr_left fun kind hkind => (houtput kind hkind).1

/-- The outputs of files that are emitted one after the other depend on each file alone. -/
theorem PassagesUnder.outputs_eq {passages : List Passage}
    (h : PassagesUnder options promises passages) (hmake : promises.Make options changes) :
    (passages.flatMap fun p => p.outputs options) =
      (passages.map Passage.source).flatMap (changes.outputs options) := by
  induction h with
  | nil => rfl
  | cons hfirst _ ih =>
    obtain ⟨houtputs, hafter⟩ := hfirst.outputs_eq hmake
    rw [List.flatMap_cons, List.map_cons, List.flatMap_cons, houtputs, ih hafter]

end Outputs

/-! ### At once and one by one -/

/-- Transformers without state make the same changes in all emissions with the given options. -/
theorem exists_changes {given : CompilerOptions} {group : TransformerGroup W}
    (h : group.Stateless given) :
    ∃ (promises : GroupPromises) (changes : GroupChanges), group.Keeps given promises ∧
      ∀ options, promises.Make options changes := by
  have hfactories : ∀ phase, ∀ factory ∈ group.phase phase, ∃ guarantee,
      (∃ change, guarantee = changesBy change) ∧ FactoryHas given factory guarantee := by
    intro phase factory hfactory
    obtain ⟨change, hchange⟩ := h phase factory hfactory
    exact ⟨changesBy change, ⟨change, rfl⟩, hchange⟩
  obtain ⟨promises, hkeep, hbefore, houtput⟩ := exists_groupPromises hfactories
  obtain ⟨before, hmake⟩ := exists_makeChange hbefore
  choose output hmakes using fun kind => exists_makeChange (houtput kind)
  exact ⟨promises, ⟨before, output⟩, hkeep, fun _ => ⟨hmake, fun kind _ => hmakes kind⟩⟩

/-- **What is written depends on the files.** Transformers without state make outputs of each file
that an emission covers, whatever the context and the world, and these are written one file after
the other. -/
theorem Program.exists_outputs {given : CompilerOptions} {group : TransformerGroup W}
    (h : group.Stateless given) (program : Program) (write : Writer W) :
    ∃ outputs : SourceFile → List Output, ∀ (target : Option SourceFile) (stage : Stage W),
      stage.context.options = given →
        program.written target group write stage.context stage.world =
          (program.emittedSources target).flatMap outputs := by
  cases hskips : program.skipsEmit with
  | true =>
    refine ⟨fun _ => [], fun target stage _ => ?_⟩
    rw [Program.written_of_skips _ _ _ _ _ hskips]
    exact (List.flatMap_eq_nil_iff.mpr fun _ _ => rfl).symm
  | false =>
    obtain ⟨promises, changes, hkeep, hmake⟩ := exists_changes h
    refine ⟨changes.outputs program.options, fun target stage hstage => ?_⟩
    obtain ⟨passages, hsources, hunder, hwritten⟩ :=
      Program.written_promised hskips (hstage ▸ hkeep) target write stage.world
    rw [hwritten, hunder.outputs_eq (hmake program.options), hsources]

namespace Sample

/-- Puts a line in front of each file. It reports each file, and counts them in the world. -/
def heading : Factory Nat := fun _ count => {
  value := fun _ file _ count => {
    value := file.withText ("// head\n" ++ file.text)
    reports := [.error 1 file.name]
    world := count + 1 }
  reports := []
  world := count }

/-- Heads files before their outputs are formed, and their declarations a second time. -/
def headingGroup : TransformerGroup Nat := { before := [heading], afterDeclarations := [heading] }

def headedFiles : List SourceFile :=
  [⟨"src/a.ts", "let a;", default⟩, ⟨"types.d.ts", "", default⟩, ⟨"b.tsx", "let b;  ", default⟩]

/-- A program of these files, with declarations asked for. -/
def headedProgram : Program :=
  ⟨⟨1⟩, headedFiles.map SourceFile.name, { declaration := some true },
    .ofList (headedFiles.map fun file => (file.name, file)), []⟩

/-- The two files that are emitted, the second where the emission of the first ended. -/
def headedParts : List (SourceFile × Stage Nat) :=
  let first : SourceFile := ⟨"src/a.ts", "let a;", default⟩
  let start : Stage Nat := { context := headedProgram.newContext, world := 0 }
  let next := ((headedProgram.emitOutputs (some first) headingGroup fun _ count => count).run
    start).2
  [(first, start), (⟨"b.tsx", "let b;  ", default⟩, next)]

theorem stateless_headingGroup (given : CompilerOptions) : headingGroup.Stateless given := by
  have hheading : FactoryStateless given heading :=
    ⟨fun file => file.withText ("// head\n" ++ file.text),
      fun _ _ _ _ _ _ _ _ => rfl⟩
  intro phase factory hfactory
  cases phase with
  | before => rwa [List.mem_singleton.mp hfactory]
  | after => exact absurd hfactory List.not_mem_nil
  | afterDeclarations => rwa [List.mem_singleton.mp hfactory]

end Sample

/-- **Emitting file by file.** Let the transformers of a group have no state. Then the emission
of a program writes what is written if each of its files that do not only hold declarations is
emitted on its own, in the order of the program: the same outputs in the same order, whose
names are those of the emitted files. Each of these emissions is skipped if and only if the
other is, and has the same diagnostics in its result. They may take place in contexts and
worlds of their own, such as those that the emissions before them leave; only the options have
to be the same. -/
theorem emission_file_by_file (program : Program) (group : TransformerGroup W) (write : Writer W)
    (context : TransformationContext) (world : W) (h : group.Stateless context.options)
    (parts : List (SourceFile × Stage W))
    (hparts : parts.map Prod.fst = program.files.filter fun file => !file.isDeclaration)
    (hoptions : ∀ part ∈ parts, part.2.context.options = context.options) :
    let whole := (program.emitOutputs none group write).run { context, world }
    let single := fun part : SourceFile × Stage W =>
      (program.emitOutputs (some part.1) group write).run part.2
    program.written none group write context world = (parts.flatMap fun part =>
      program.written (some part.1) group write part.2.context part.2.world) ∧
    whole.1.1.emittedFiles = (parts.flatMap fun part => (single part).1.1.emittedFiles) ∧
    ∀ part ∈ parts, (single part).1.1.skipped = whole.1.1.skipped ∧
      (single part).1.1.diagnostics = whole.1.1.diagnostics := by
  intro whole single
  have hwhole : whole.1.1 = ⟨program.skipsEmit, program.diagnostics,
      (program.written none group write context world).map Output.name⟩ :=
    program.emitOutputs_result none group write context world
  have hsingle : ∀ part, (single part).1.1 = ⟨program.skipsEmit, program.diagnostics,
      (program.written (some part.1) group write part.2.context part.2.world).map
        Output.name⟩ :=
    fun part => program.emitOutputs_result (some part.1) group write part.2.context part.2.world
  obtain ⟨outputs, houtputs⟩ := Program.exists_outputs h program write
  have hpart : ∀ part ∈ parts,
      outputs part.1 =
        program.written (some part.1) group write part.2.context part.2.world := by
    intro part hpart
    rw [houtputs (some part.1) part.2 (hoptions part hpart)]
    exact (List.append_nil _).symm
  have hwritten : program.written none group write context world = (parts.flatMap fun part =>
      program.written (some part.1) group write part.2.context part.2.world) :=
    calc program.written none group write context world
        = (program.files.filter fun file => !file.isDeclaration).flatMap outputs :=
          houtputs none ⟨context, world⟩ rfl
      _ = parts.flatMap fun part => outputs part.1 := by rw [← hparts, List.flatMap_map]
      _ = _ := List.flatMap_congr hpart
  refine ⟨hwritten, ?_, fun part _ => ?_⟩
  · simp only [hwhole, hsingle]
    rw [hwritten, List.map_flatMap]
  · rw [hwhole, hsingle]
    exact ⟨rfl, rfl⟩

/-- At once or one by one, both files are headed in the same way, though what was reported and
counted before differs. -/
theorem emission_file_by_file_sample :
    Sample.headingGroup.Stateless Sample.headedProgram.newContext.options ∧
    Sample.headedParts.map Prod.fst =
      (Sample.headedProgram.files.filter fun file => !file.isDeclaration) ∧
    (∀ part ∈ Sample.headedParts,
      part.2.context.options = Sample.headedProgram.newContext.options) ∧
    Sample.headedParts.map (fun part => part.2.world) = [0, 2] ∧
    (Sample.headedParts.flatMap fun part => Sample.headedProgram.written (some part.1)
      Sample.headingGroup (fun _ count => count) part.2.context part.2.world) =
        [⟨"src/a.js", "// head\nlet a;\n"⟩,
          ⟨"src/a.d.ts", "// head\n// head\nlet a;\n"⟩,
          ⟨"b.jsx", "// head\nlet b;\n"⟩,
          ⟨"b.d.ts", "// head\n// head\nlet b;\n"⟩] := by
  have hstateless := Sample.stateless_headingGroup Sample.headedProgram.newContext.options
  have hparts : Sample.headedParts.map Prod.fst =
      (Sample.headedProgram.files.filter fun file => !file.isDeclaration) := by decide
  have hoptions : ∀ part ∈ Sample.headedParts,
      part.2.context.options = Sample.headedProgram.newContext.options := by
    intro part hpart
    rcases List.mem_cons.mp hpart with rfl | hpart
    · rfl
    · rw [List.mem_singleton.mp hpart]
      rfl
  obtain ⟨hwritten, -, -⟩ := emission_file_by_file Sample.headedProgram Sample.headingGroup
    (fun _ count => count) Sample.headedProgram.newContext 0 hstateless Sample.headedParts hparts
    hoptions
  refine ⟨hstateless, hparts, hoptions, by decide, ?_⟩
  rw [← hwritten]
  decide

end TransformerEngine
