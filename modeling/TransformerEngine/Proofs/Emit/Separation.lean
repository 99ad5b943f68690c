import TransformerEngine.Proofs.Emit.Guarantees

/-!
# JavaScript and declarations

The JavaScript and the declarations of a file are formed side by side, from the same transformed
file. If what transformers make of files depends on the files that they are given and on
nothing else, neither kind of output sees anything of the other: `outputs_do_not_interfere`
says so of the outputs of two emissions that differ in the transformers of the other kind.

The comparison rests on functional guarantees. Where each result is determined by the files
given so far, what is allowed of a file is unique (`Allows.unique`). The outputs of a kind are
then fixed by the promises of the `before` transformers and of that kind
(`PassagesUnder.output_unique`); the transformers of the other kind may promise nothing at all
(`exists_promises_with`).
-/

namespace TransformerEngine

variable {W : Type}

/-! ### Results that are determined -/

/-- The guarantee allows one result at most. -/
def Guarantee.Functional (guarantee : Guarantee) : Prop :=
  ∀ seen file result result', guarantee seen file result → guarantee seen file result' →
    result = result'

/-- Promises with functional guarantees allow one course at most. -/
theorem Allows.unique {promises promises' promises'' : List Promise} {file : SourceFile}
    {results results' : List SourceFile} (h : Allows promises file results promises')
    (h' : Allows promises file results' promises'')
    (hfunctional : ∀ promise ∈ promises, promise.guarantee.Functional) :
    results = results' ∧ promises' = promises'' := by
  induction h generalizing results' promises'' with
  | nil =>
    cases h'
    exact ⟨rfl, rfl⟩
  | cons hresult _ ih =>
    obtain ⟨hfirst, hrest⟩ := List.forall_mem_cons.mp hfunctional
    cases h' with
    | cons hresult' hrest' =>
      -- the first results agree, so that the same file is handed on
      obtain rfl := hfirst _ _ _ _ hresult hresult'
      obtain ⟨rfl, rfl⟩ := ih hrest' hrest
      exact ⟨rfl, rfl⟩

/-- What the transformers of the factory make of a file depends on the files that they were
given so far. Nothing else is read: neither the context nor the world, and no options. -/
def FactorySelfContained (factory : Factory W) : Prop :=
  ∃ rule : List SourceFile → SourceFile → SourceFile, ∀ given,
    FactoryHas given factory fun seen file result => result = rule seen file

/-- The factories of the group in the phase are self-contained. -/
def TransformerGroup.SelfContained (group : TransformerGroup W) (phase : Phase) : Prop :=
  ∀ factory ∈ group.phase phase, FactorySelfContained factory

/-- Self-contained factories have promises that determine all results. -/
theorem exists_functional_promises {factories : List (Factory W)}
    (h : ∀ factory ∈ factories, FactorySelfContained factory) :
    ∃ promises, (∀ promise ∈ promises, promise.guarantee.Functional) ∧
      ∀ given, List.Forall₂ (FactoryKeeps given) factories promises := by
  have hfactories : ∀ factory ∈ factories, ∃ guarantee : Guarantee, guarantee.Functional ∧
      ∀ given, True → FactoryHas given factory guarantee := by
    intro factory hfactory
    obtain ⟨rule, hrule⟩ := h factory hfactory
    refine ⟨fun seen file result => result = rule seen file, ?_, fun given _ => hrule given⟩
    rintro seen file _ _ rfl rfl
    rfl
  obtain ⟨promises, hfunctional, hkeep⟩ := exists_promises hfactories
  exact ⟨promises, hfunctional, fun given => hkeep given trivial⟩

/-- Promises of the `before` transformers and of the transformers of one kind of output make
promises of the group, where no more is known of the others. -/
theorem exists_promises_with {group : TransformerGroup W} {kind : OutputKind}
    {before output : List Promise}
    (hbefore : ∀ given, List.Forall₂ (FactoryKeeps given) group.before before)
    (houtput : ∀ given, List.Forall₂ (FactoryKeeps given) (group.phase kind.phase) output) :
    ∃ promises : GroupPromises, promises.before = before ∧ promises.output kind = output ∧
      ∀ given, group.Keeps given promises := by
  choose others hothers using fun other : OutputKind =>
    exists_promises_of_any (group.phase other.phase)
  -- the promises of the kind take the place of some that say nothing
  refine ⟨⟨before, Function.update others kind output⟩, rfl, Function.update_self .., ?_⟩
  refine fun given => ⟨hbefore given, fun other => ?_⟩
  rcases eq_or_ne other kind with rfl | hne
  · simpa only [Function.update_self] using houtput given
  · simpa only [Function.update_of_ne hne] using hothers other given

/-! ### The outputs of a kind -/

section Outputs

variable {options options' : CompilerOptions} {kind : OutputKind}

/-- The outputs of a kind are determined by the files, the output directory and the promises of
the transformers that have to do with the kind. -/
theorem PassagesUnder.output_unique {promises promises' : GroupPromises}
    {passages passages' : List Passage} (hdirectory : options.outDir = options'.outDir)
    (hkind : kind ∈ options.outputKinds) (hkind' : kind ∈ options'.outputKinds)
    (h : PassagesUnder options promises passages) (h' : PassagesUnder options' promises' passages')
    (hsources : passages.map Passage.source = passages'.map Passage.source)
    (hbefore : promises.before = promises'.before)
    (houtput : promises.output kind = promises'.output kind)
    (hfunctional : ∀ promise ∈ promises.before, promise.guarantee.Functional)
    (hfunctional' : ∀ promise ∈ promises.output kind, promise.guarantee.Functional) :
    passages.map (fun p => p.output options kind) =
      passages'.map (fun p => p.output options' kind) := by
  induction h generalizing promises' passages' with
  | nil =>
    rw [List.map_nil, List.nil_eq, List.map_eq_nil_iff] at hsources
    rw [hsources, List.map_nil, List.map_nil]
  | @cons promises₁ after p rest hfirst hrest ih =>
    cases h' with
    | nil => cases hsources
    | @cons _ after' p' rest' hfirst' hrest' =>
      obtain ⟨hsource, hsources⟩ := List.cons.inj hsources
      -- the transformed files agree, hence also under their names as outputs of this kind
      obtain ⟨hresults, hbefore'⟩ :=
        hfirst.before.unique (hbefore ▸ hsource ▸ hfirst'.before) hfunctional
      have hnamed : p.named options kind = p'.named options' kind := by
        rw [Passage.named, Passage.named, Passage.transformed, Passage.transformed, hresults,
          hsource, hdirectory]
      obtain ⟨hresults', houtput'⟩ := (hfirst.output kind hkind).unique
        (houtput ▸ hnamed ▸ hfirst'.output kind hkind') hfunctional'
      have hfile : p.output options kind = p'.output options' kind := by
        rw [Passage.output, Passage.output, hresults', hnamed]
      rw [List.map_cons, List.map_cons, hfile, ih hrest' hsources hbefore' houtput'
        (hfirst.before.forall_guarantee hfunctional)
        ((hfirst.output kind hkind).forall_guarantee hfunctional')]

/-- A kind that is written is written once of each file. -/
theorem filter_outputKinds (h : kind ∈ options.outputKinds) :
    options.outputKinds.filter (· = kind) = [kind] := by
  rw [CompilerOptions.outputKinds] at h ⊢
  split at h
  · rename_i hdeclaration
    rw [if_pos hdeclaration]
    cases kind <;> rfl
  · rename_i hdeclaration
    rw [if_neg hdeclaration]
    obtain rfl := List.mem_singleton.mp h
    rfl

/-- Passages of files give each file an output of each kind. -/
theorem zip_outputs (passages : List Passage) (options : CompilerOptions) :
    (passages.flatMap fun _ => options.outputKinds).zip
        (passages.flatMap fun p => p.outputs options) =
      passages.flatMap fun p =>
        options.outputKinds.map fun kind => (kind, p.output options kind) := by
  induction passages with
  | nil => rfl
  | cons p rest ih =>
    have hfile : options.outputKinds.zip (p.outputs options) =
        options.outputKinds.map fun kind => (kind, p.output options kind) := by
      rw [Passage.outputs_eq]
      have hzip : (options.outputKinds.map id).zip (options.outputKinds.map (p.output options)) =
          options.outputKinds.map fun kind => (kind, p.output options kind) := List.zip_map'
      rwa [List.map_id] at hzip
    have hlength : options.outputKinds.length = (p.outputs options).length := by
      rw [Passage.outputs_eq, List.length_map]
    rw [List.flatMap_cons, List.flatMap_cons, List.zip_append hlength, ih, hfile,
      List.flatMap_cons]

end Outputs

/-! ### Two emissions -/

namespace Program

/-- The program with declarations asked for, or not. -/
def withDeclaration (program : Program) (declaration : Option Bool) : Program :=
  { program with options := { program.options with declaration } }

/-- What is written in an emission, each output with its kind: the kinds take turns, file by
file. -/
def writtenByKind (program : Program) (target : Option SourceFile) (group : TransformerGroup W)
    (write : Writer W) (context : TransformationContext) (world : W) : List (OutputKind × Output) :=
  ((program.emittedSources target).flatMap fun _ => program.options.outputKinds).zip
    (program.written target group write context world)

/-- The outputs of a kind that are written in an emission, in order. -/
def writtenOf (program : Program) (kind : OutputKind) (target : Option SourceFile)
    (group : TransformerGroup W) (write : Writer W) (context : TransformationContext) (world : W) :
    List Output :=
  ((program.writtenByKind target group write context world).filter (·.1 = kind)).map Prod.snd

section Kinds

variable {program : Program} {kind : OutputKind} {target : Option SourceFile}
  {group : TransformerGroup W} {write : Writer W} {context : TransformationContext} {world : W}

theorem writtenOf_of_skips (h : program.skipsEmit = true) :
    program.writtenOf kind target group write context world = [] := by
  rw [writtenOf, writtenByKind, written_of_skips _ _ _ _ _ h, List.zip_nil_right]
  rfl

theorem writtenOf_of_notMem (h : kind ∉ program.options.outputKinds) :
    program.writtenOf kind target group write context world = [] := by
  rw [writtenOf, List.map_eq_nil_iff, List.filter_eq_nil_iff]
  rintro ⟨other, output⟩ hmem hother
  obtain ⟨_, -, hkind⟩ := List.mem_flatMap.mp (List.of_mem_zip hmem).1
  exact h (of_decide_eq_true hother ▸ hkind)

/-- Whatever is written has a kind. -/
theorem map_snd_writtenByKind : (program.writtenByKind target group write context world).map
    Prod.snd = program.written target group write context world := by
  cases hskips : program.skipsEmit with
  | true =>
    rw [writtenByKind, written_of_skips _ _ _ _ _ hskips, List.zip_nil_right]
    rfl
  | false =>
    -- what the transformers promise does not matter: only the passages count
    obtain ⟨before, hbefore⟩ := exists_promises_of_any group.before
    obtain ⟨output, houtput⟩ := exists_promises_of_any (group.phase OutputKind.script.phase)
    obtain ⟨promises, -, -, hkeep⟩ := exists_promises_with hbefore houtput
    obtain ⟨passages, hsources, -, hwritten⟩ :=
      written_promised hskips (hkeep context.options) target write world
    rw [writtenByKind, hwritten, ← hsources, List.flatMap_map, zip_outputs, List.map_flatMap]
    refine List.flatMap_congr fun p _ => ?_
    rw [List.map_map, Passage.outputs_eq]
    rfl

/-- The outputs of a kind come from passages, which promises allow. -/
theorem writtenOf_promised {promises : GroupPromises} (hskips : program.skipsEmit = false)
    (h : group.Keeps context.options promises) (hkind : kind ∈ program.options.outputKinds) :
    ∃ passages : List Passage, passages.map Passage.source = program.emittedSources target ∧
      PassagesUnder program.options promises passages ∧
      program.writtenOf kind target group write context world =
        passages.map fun p => p.output program.options kind := by
  obtain ⟨passages, hsources, hunder, hwritten⟩ := written_promised hskips h target write world
  refine ⟨passages, hsources, hunder, ?_⟩
  rw [writtenOf, writtenByKind, hwritten, ← hsources, List.flatMap_map, zip_outputs,
    List.filter_flatMap, List.map_flatMap, List.map_eq_flatMap]
  refine List.flatMap_congr fun p _ => ?_
  rw [List.filter_map, List.map_map]
  have hfilter : program.options.outputKinds.filter ((fun x : OutputKind × Output =>
      decide (x.1 = kind)) ∘ fun other => (other, p.output program.options other)) = [kind] :=
    filter_outputKinds hkind
  rw [hfilter]
  rfl

/-- **The outputs of a kind.** They are the same in two emissions of the same files that write
the kind, where the factories of the `before` phase and of the phase of the kind are the same and
self-contained. -/
theorem writtenOf_eq {program' : Program} {group' : TransformerGroup W}
    (hsources : program'.emittedSources target = program.emittedSources target)
    (hdirectory : program'.options.outDir = program.options.outDir)
    (hskips : program'.skipsEmit = program.skipsEmit)
    (hkind : kind ∈ program.options.outputKinds) (hkind' : kind ∈ program'.options.outputKinds)
    (hbefore : group'.phase .before = group.phase .before)
    (houtput : group'.phase kind.phase = group.phase kind.phase)
    (hself : group.SelfContained .before) (hself' : group.SelfContained kind.phase)
    (write write' : Writer W) (context context' : TransformationContext) (world world' : W) :
    program'.writtenOf kind target group' write' context' world' =
      program.writtenOf kind target group write context world := by
  cases hemits : program.skipsEmit with
  | true => rw [writtenOf_of_skips hemits, writtenOf_of_skips (hskips.trans hemits)]
  | false =>
    -- both emissions are under the same promises, as far as these have to do with the kind
    obtain ⟨before, hfunctional, hkeep⟩ := exists_functional_promises hself
    obtain ⟨output, hfunctional', hkeep'⟩ := exists_functional_promises hself'
    obtain ⟨promises, rfl, rfl, hpromises⟩ := exists_promises_with hkeep hkeep'
    rw [← hbefore] at hkeep
    rw [← houtput] at hkeep'
    obtain ⟨promises', hsame, hsame', hpromises'⟩ := exists_promises_with hkeep hkeep'
    obtain ⟨passages, hpassages, hunder, hwritten⟩ :=
      writtenOf_promised hemits (hpromises context.options) hkind
    obtain ⟨passages', hpassages', hunder', hwritten'⟩ :=
      writtenOf_promised (hskips.trans hemits) (hpromises' context'.options) hkind'
    rw [hwritten, hwritten']
    have hagree : passages.map Passage.source = passages'.map Passage.source := by
      rw [hpassages, hpassages', hsources]
    exact (hunder.output_unique hdirectory.symm hkind hkind' hunder' hagree hsame.symm
      hsame'.symm hfunctional hfunctional').symm

end Kinds

end Program

namespace Sample

/-- Writes the names of the files that came before behind each file. -/
def listing : Factory Nat := fun _ world => {
  value := fun seen file _ world => {
    value := file.withText (file.text ++ String.join (seen.map fun earlier =>
      "\n// after " ++ earlier.name))
    reports := []
    world }
  reports := []
  world }

/-- Empties each file if declarations are asked for, gives it a name which depends on the world,
and counts it there. -/
def meddling : Factory Nat := fun _ world => {
  value := fun _ file context world => {
    value := ⟨if world = 0 then "first" else file.name,
      if context.options.declaration = some true then "" else file.text, file.version⟩
    reports := [.error 1 file.name]
    world := world + 1 }
  reports := []
  world }

def listingGroup : TransformerGroup Nat :=
  { before := [listing], after := [listing], afterDeclarations := [listing] }

def listedFiles : List SourceFile :=
  [⟨"src/a.ts", "let a;", default⟩, ⟨"b.tsx", "let b;", default⟩]

/-- A program of two files, with declarations asked for. -/
def listedProgram : Program :=
  ⟨⟨1⟩, listedFiles.map SourceFile.name, { declaration := some true },
    .ofList (listedFiles.map fun file => (file.name, file)), []⟩

theorem selfContained_listingGroup (phase : Phase) : listingGroup.SelfContained phase := by
  have hlisting : FactorySelfContained listing :=
    ⟨fun seen file => file.withText (file.text ++ String.join (seen.map fun earlier =>
      "\n// after " ++ earlier.name)), fun _ _ _ _ _ _ _ _ _ => rfl⟩
  intro factory hfactory
  cases phase <;> rwa [List.mem_singleton.mp hfactory]

end Sample

/-- **JavaScript and declarations do not interfere.** Let the `before` transformers of a group be
self-contained, and let the program be emitted in whatever contexts and worlds.

If its `afterDeclarations` transformers are self-contained, then the same declarations are
written, under the same names, whatever the `after` transformers are. If its `after`
transformers are self-contained, then the same JavaScript is written, whatever the
`afterDeclarations` transformers are, and whether declarations are asked for or not. Whatever is
written is one or the other. -/
theorem outputs_do_not_interfere (program : Program) (target : Option SourceFile)
    (group : TransformerGroup W) (hbefore : group.SelfContained .before)
    (write write' : Writer W) (context context' : TransformationContext) (world world' : W) :
    (group.SelfContained .afterDeclarations → ∀ after,
      program.writtenOf .declaration target { group with after } write context world =
        program.writtenOf .declaration target group write' context' world') ∧
    (group.SelfContained .after → ∀ afterDeclarations declaration declaration',
      (program.withDeclaration declaration).writtenOf .script target
          { group with afterDeclarations } write context world =
        (program.withDeclaration declaration').writtenOf .script target group write' context'
          world') ∧
    (program.writtenByKind target group write context world).map Prod.snd =
      program.written target group write context world := by
  refine ⟨fun hdeclarations after => ?_, fun hafter afterDeclarations _ _ => ?_,
    Program.map_snd_writtenByKind⟩
  · by_cases hkind : OutputKind.declaration ∈ program.options.outputKinds
    · refine Program.writtenOf_eq ?_ ?_ ?_ hkind hkind ?_ ?_ hbefore hdeclarations .. <;> rfl
    · rw [Program.writtenOf_of_notMem hkind, Program.writtenOf_of_notMem hkind]
  · have hkind : ∀ options : CompilerOptions, OutputKind.script ∈ options.outputKinds :=
      fun _ => List.mem_cons_self
    refine Program.writtenOf_eq ?_ ?_ ?_ (hkind _) (hkind _) ?_ ?_ hbefore hafter .. <;> rfl

/-- Neither sees that the transformers of the other kind rename and empty files, though each
output depends on the files that came before. -/
theorem outputs_do_not_interfere_sample :
    (∀ phase, Sample.listingGroup.SelfContained phase) ∧
    Sample.listedProgram.writtenOf .declaration none
        { Sample.listingGroup with after := [Sample.meddling] } (fun _ count => count + 1)
        Sample.listedProgram.newContext 0 =
      [⟨"src/a.d.ts", "let a;\n"⟩,
        ⟨"b.d.ts", "let b;\n// after src/a.ts\n// after src/a.d.ts\n"⟩] ∧
    (Sample.listedProgram.withDeclaration none).writtenOf .script none
        { Sample.listingGroup with afterDeclarations := [Sample.meddling] }
        (fun _ count => count + 1) Sample.listedProgram.newContext 0 =
      [⟨"src/a.js", "let a;\n"⟩,
        ⟨"b.jsx", "let b;\n// after src/a.ts\n// after src/a.js\n"⟩] := by
  have hself := Sample.selfContained_listingGroup
  obtain ⟨hdeclaration, hscript, -⟩ := outputs_do_not_interfere Sample.listedProgram none
    Sample.listingGroup (hself .before) (fun _ count => count + 1) (fun _ count => count)
    Sample.listedProgram.newContext { options := {} } 0 5
  refine ⟨hself, ?_, ?_⟩
  · rw [hdeclaration (hself .afterDeclarations) [Sample.meddling]]
    decide +kernel
  · rw [hscript (hself .after) [Sample.meddling] none (some true)]
    decide +kernel

end TransformerEngine
