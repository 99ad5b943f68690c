import Mathlib.Data.List.Nodup
import TransformerEngine.Proofs.Emit.Guarantees

/-!
# Which outputs have one name

An output is named after its source: the extension of the source is cut off and the extension of
the output is put in its place, and an output directory takes the place of all directories. Two
sources can so come to one output, because they stand in two directories or because their
extensions stand for the same one. `outputName_eq_iff` says when: what is left of the names has
to be the same (`outputStem`), and so have the extensions of the outputs. Nothing else can make
names meet, since no output extension ends in another (`extension_of_suffix`).

An emission whose transformers leave the names of outputs alone writes each output under the
name that its source gives it (`written_names`). Hence `emitted_names_nodup_iff`: no name is
written twice if and only if no two files of the program share an output.
-/

namespace TransformerEngine

variable {W : Type}

/-! ### The parts of an output name -/

namespace Extension

/-- The extensions that a source name may be taken to have. -/
def all : List Extension := absent :: known

theorem split_snd_mem (name : String) : (split name).2 ∈ all := by
  unfold split
  cases hfound : known.findSome? fun e =>
      (Text.stripEnding? name e.source).map fun stem => (stem, e) with
  | none => exact List.mem_cons_self
  | some found =>
    obtain ⟨e, hknown, hstem⟩ := List.exists_of_findSome?_eq_some hfound
    obtain ⟨stem, -, rfl⟩ := Option.map_eq_some_iff.mp hstem
    exact List.mem_cons_of_mem _ hknown

end Extension

/-- No output extension ends in another, and none is of both kinds. -/
theorem extension_of_suffix {kind kind' : OutputKind} {e e' : Extension} (he : e ∈ Extension.all)
    (he' : e' ∈ Extension.all)
    (h : (kind.extension e).toList <:+ (kind'.extension e').toList) :
    kind = kind' ∧ kind.extension e = kind'.extension e' := by
  have hscript : ∀ e ∈ Extension.all, ∀ e' ∈ Extension.all,
      (e.script.toList <:+ e'.script.toList → e.script = e'.script) ∧
      (e.declaration.toList <:+ e'.declaration.toList → e.declaration = e'.declaration) ∧
      ¬ e.script.toList <:+ e'.declaration.toList ∧
      ¬ e.declaration.toList <:+ e'.script.toList := by decide
  obtain ⟨hscripts, hdeclarations, hmixed, hmixed'⟩ := hscript e he e' he'
  cases kind with
  | script =>
    cases kind' with
    | script => exact ⟨rfl, hscripts h⟩
    | declaration => exact absurd h hmixed
  | declaration =>
    cases kind' with
    | script => exact absurd h hmixed'
    | declaration => exact ⟨rfl, hdeclarations h⟩

/-- What an output name keeps of the source name: without the extension, and where there is an
output directory without the directories. -/
def outputStem (name : String) (directory : Option String) : String :=
  let stem := (Extension.split name).1
  if directory.isSome then Text.afterLast '/' stem else stem

/-- What an output directory puts in front of names. -/
def outputFolder : Option String → String
  | some directory => Text.dropEnd '/' directory ++ "/"
  | none => ""

theorem outputName_eq (name : String) (directory : Option String) (kind : OutputKind) :
    outputName name directory kind =
      outputFolder directory ++ outputStem name directory ++
        kind.extension (Extension.split name).2 := by
  cases directory with
  | none => rw [outputName, outputFolder, String.empty_append]; rfl
  | some directory => rfl

/-- **When two output names meet.** -/
theorem outputName_eq_iff {name name' : String} {directory : Option String}
    {kind kind' : OutputKind} :
    outputName name directory kind = outputName name' directory kind' ↔
      kind = kind' ∧ outputStem name directory = outputStem name' directory ∧
        kind.extension (Extension.split name).2 = kind'.extension (Extension.split name').2 := by
  constructor
  · intro h
    have hchars := congrArg String.toList h
    simp only [outputName_eq, String.toList_append, List.append_assoc] at hchars
    have htail := List.append_cancel_left hchars
    -- both extensions end the same text, so that one of them ends the other
    have hends := List.suffix_or_suffix_of_suffix (htail ▸ List.suffix_append _ _)
      (List.suffix_append (outputStem name' directory).toList
        (kind'.extension (Extension.split name').2).toList)
    have hsame : kind = kind' ∧
        kind.extension (Extension.split name).2 = kind'.extension (Extension.split name').2 := by
      have hmem := Extension.split_snd_mem name
      have hmem' := Extension.split_snd_mem name'
      rcases hends with hends | hends
      · exact extension_of_suffix hmem hmem' hends
      · obtain ⟨hkind, hextension⟩ := extension_of_suffix hmem' hmem hends
        exact ⟨hkind.symm, hextension.symm⟩
    obtain ⟨hkind, hextension⟩ := hsame
    rw [hextension] at htail
    exact ⟨hkind, String.toList_inj.mp (List.append_cancel_right htail), hextension⟩
  · rintro ⟨rfl, hstem, hextension⟩
    rw [outputName_eq, outputName_eq, hstem, hextension]

/-! ### Files that share an output -/

/-- Some output of both files has the same name, where no transformer renames it. -/
def SourceFile.SharesOutput (options : CompilerOptions) (file other : SourceFile) : Prop :=
  outputStem file.name options.outDir = outputStem other.name options.outDir ∧
    ∃ kind ∈ options.outputKinds, kind.extension (Extension.split file.name).2 =
      kind.extension (Extension.split other.name).2

instance (options : CompilerOptions) (file other : SourceFile) :
    Decidable (file.SharesOutput options other) :=
  inferInstanceAs (Decidable (_ ∧ _))

/-- The names of the outputs of a file. -/
def SourceFile.outputNames (options : CompilerOptions) (file : SourceFile) : List String :=
  options.outputKinds.map (outputName file.name options.outDir)

namespace SourceFile

theorem nodup_outputNames (options : CompilerOptions) (file : SourceFile) :
    (file.outputNames options).Nodup := by
  have hkinds : options.outputKinds.Nodup := by
    rw [CompilerOptions.outputKinds]
    split <;> decide
  have hinjective : Function.Injective (outputName file.name options.outDir) :=
    fun kind kind' h => (outputName_eq_iff.mp h).1
  exact hkinds.map hinjective

theorem sharesOutput_iff {options : CompilerOptions} {file other : SourceFile} :
    file.SharesOutput options other ↔
      ∃ name ∈ file.outputNames options, name ∈ other.outputNames options := by
  constructor
  · rintro ⟨hstem, kind, hkind, hextension⟩
    refine ⟨_, List.mem_map_of_mem hkind, ?_⟩
    rw [outputName_eq_iff.mpr ⟨rfl, hstem, hextension⟩]
    exact List.mem_map_of_mem hkind
  · rintro ⟨name, hfile, hother⟩
    obtain ⟨kind, hkind, rfl⟩ := List.mem_map.mp hfile
    obtain ⟨kind', -, hname⟩ := List.mem_map.mp hother
    obtain ⟨rfl, hstem, hextension⟩ := outputName_eq_iff.mp hname
    exact ⟨hstem.symm, kind', hkind, hextension.symm⟩

/-- The names of the outputs of files are distinct if and only if no two files share one. -/
theorem nodup_flatMap_outputNames_iff {options : CompilerOptions} {files : List SourceFile} :
    (files.flatMap (outputNames options)).Nodup ↔
      files.Pairwise fun file other => ¬ file.SharesOutput options other := by
  have hdisjoint : ∀ file other : SourceFile,
      Function.onFun List.Disjoint (outputNames options) file other ↔
        ¬ file.SharesOutput options other := by
    intro file other
    rw [sharesOutput_iff]
    exact ⟨fun h ⟨name, hfile, hother⟩ => h hfile hother,
      fun h name hfile hother => h ⟨name, hfile, hother⟩⟩
  rw [List.nodup_flatMap, List.Pairwise.iff hdisjoint]
  exact and_iff_right fun file _ => nodup_outputNames options file

end SourceFile

/-! ### Emissions that keep the names -/

/-- The guarantee allows only results that keep the name of the file. -/
def Guarantee.KeepsName (guarantee : Guarantee) : Prop :=
  ∀ seen file result, guarantee seen file result → result.name = file.name

/-- No transformer of the outputs gives a file another name, where the options are the given
ones. What the `before` transformers do does not matter. -/
def TransformerGroup.KeepsOutputNames (given : CompilerOptions) (group : TransformerGroup W) :
    Prop :=
  ∀ kind : OutputKind, ∀ factory ∈ group.phase kind.phase,
    FactoryHas given factory fun _ file result => result.name = file.name

theorem Allows.name_eq {promises promises' : List Promise} {file : SourceFile}
    {results : List SourceFile} (h : Allows promises file results promises')
    (hkeep : ∀ promise ∈ promises, promise.guarantee.KeepsName) :
    (results.getLastD file).name = file.name := by
  induction h with
  | nil => rfl
  | @cons promise file result _ _ results hresult _ ih =>
    obtain ⟨hfirst, hrest⟩ := List.forall_mem_cons.mp hkeep
    rw [List.getLastD_cons, ih hrest, hfirst _ _ _ hresult]

/-- The outputs of files under promises to keep names are named after their sources. -/
theorem PassagesUnder.names_eq {options : CompilerOptions} {promises : GroupPromises}
    {passages : List Passage} (h : PassagesUnder options promises passages)
    (hkeep : ∀ kind ∈ options.outputKinds, ∀ promise ∈ promises.output kind,
      promise.guarantee.KeepsName) :
    (passages.flatMap fun p => p.outputs options).map Output.name =
      (passages.map Passage.source).flatMap (SourceFile.outputNames options) := by
  induction h with
  | nil => rfl
  | @cons promises promises' p rest hfirst _ ih =>
    have hfile : (p.outputs options).map Output.name = p.source.outputNames options := by
      rw [Passage.outputs_eq, List.map_map]
      exact List.map_congr_left fun kind hkind =>
        (hfirst.output kind hkind).name_eq (hkeep kind hkind)
    have hkeep' : ∀ kind ∈ options.outputKinds, ∀ promise ∈ promises'.output kind,
        promise.guarantee.KeepsName := fun kind hkind =>
      (hfirst.output kind hkind).forall_guarantee (hkeep kind hkind)
    rw [List.flatMap_cons, List.map_append, hfile, ih hkeep', List.map_cons, List.flatMap_cons]

/-- Where the names of outputs are kept, promises say so. -/
theorem TransformerGroup.KeepsOutputNames.exists_promises {given : CompilerOptions}
    {group : TransformerGroup W} (h : group.KeepsOutputNames given) :
    ∃ promises : GroupPromises, group.Keeps given promises ∧
      ∀ kind, ∀ promise ∈ promises.output kind, promise.guarantee.KeepsName := by
  have hfactories : ∀ phase, ∀ factory ∈ group.phase phase, ∃ guarantee : Guarantee,
      (phase ≠ .before → guarantee.KeepsName) ∧ FactoryHas given factory guarantee := by
    intro phase factory hfactory
    -- nothing is known of the first phase, and the others form the outputs of a kind
    cases phase with
    | before =>
      exact ⟨fun _ _ _ => True, fun hphase => absurd rfl hphase, fun _ _ _ _ _ _ _ _ => trivial⟩
    | after => exact ⟨_, fun _ _ _ _ hname => hname, h .script factory hfactory⟩
    | afterDeclarations => exact ⟨_, fun _ _ _ _ hname => hname, h .declaration factory hfactory⟩
  obtain ⟨promises, hkeep, -, hnames⟩ := exists_groupPromises hfactories
  refine ⟨promises, hkeep, fun kind promise hpromise => hnames kind promise hpromise ?_⟩
  cases kind <;> decide

/-- **The names of an emission.** Each output is written under the name that its source gives
it. -/
theorem Program.written_names {program : Program} {group : TransformerGroup W}
    {context : TransformationContext} (hskips : program.skipsEmit = false)
    (hkeep : group.KeepsOutputNames context.options) (target : Option SourceFile)
    (write : Writer W) (world : W) :
    (program.written target group write context world).map Output.name =
      (program.emittedSources target).flatMap (SourceFile.outputNames program.options) := by
  obtain ⟨promises, hpromises, hnames⟩ := hkeep.exists_promises
  obtain ⟨passages, hsources, hunder, hwritten⟩ :=
    Program.written_promised hskips hpromises target write world
  rw [hwritten, hunder.names_eq fun kind _ => hnames kind, hsources]

/-- **When no output is written twice.** Let no transformer rename outputs, and let the emission
of a whole program not be skipped. The names that it writes are pairwise distinct if and only if
no two files of the program, those that only hold declarations left out, share an output: none
agree in what is left of their names, without the extension and, where there is an output
directory, without the directories, and also in the extension of their JavaScript or, if
declarations are asked for, of their declarations. -/
theorem emitted_names_nodup_iff (program : Program) (group : TransformerGroup W)
    (write : Writer W) (context : TransformationContext) (world : W)
    (hskips : program.skipsEmit = false) (hkeep : group.KeepsOutputNames context.options) :
    ((program.written none group write context world).map Output.name).Nodup ↔
      (program.files.filter fun file => !file.isDeclaration).Pairwise fun file other =>
        ¬ file.SharesOutput program.options other := by
  rw [Program.written_names hskips hkeep]
  exact SourceFile.nodup_flatMap_outputNames_iff

namespace Sample

/-- A host with files of these names. -/
def hostOf (names : List String) : CompilerHost :=
  (MemoryHost.writeAll { currentDirectory := "/" } (names.map fun name => (name, ""))).toHost

def relatedNames : List String := ["src/a.ts", "src/a.tsx", "src/b.ts", "src/b.d.ts"]

/-- A program of files which share an output only if declarations are asked for. -/
def relatedProgram (declaration : Option Bool) : Program :=
  .create relatedNames { outDir := some "dist/", declaration } (hostOf relatedNames) ⟨1⟩

/-- A program of two files of the same name, which are written to one directory. -/
def flattenedProgram : Program :=
  .create ["src/a.ts", "lib/a.ts"] { outDir := some "dist" } (hostOf ["src/a.ts", "lib/a.ts"]) ⟨1⟩

/-- Renames each file before its outputs are formed. -/
def relabeling : Factory Unit := fun _ _ => {
  value := fun _ file _ _ => { value := file.withName "a.ts", reports := [], world := () }
  reports := []
  world := () }

end Sample

/-- What `a.ts` and `a.tsx` share are declarations. That all files are renamed before their
outputs are formed makes no difference. -/
theorem emitted_names_nodup_iff_sample :
    ((Sample.relatedProgram none).skipsEmit = false ∧
      (Sample.relatedProgram (some true)).skipsEmit = false ∧
      ({ before := [Sample.relabeling] } : TransformerGroup Unit).KeepsOutputNames {}) ∧
    (((Sample.relatedProgram none).written none { before := [Sample.relabeling] } (fun _ _ => ())
      { options := {} } ()).map Output.name).Nodup ∧
    ¬ (((Sample.relatedProgram (some true)).written none { before := [Sample.relabeling] }
      (fun _ _ => ()) { options := {} } ()).map Output.name).Nodup := by
  have hskips : (Sample.relatedProgram none).skipsEmit = false := by decide
  have hskips' : (Sample.relatedProgram (some true)).skipsEmit = false := by decide
  have hkeep : ({ before := [Sample.relabeling] } : TransformerGroup Unit).KeepsOutputNames {} := by
    intro kind factory hfactory
    cases kind <;> exact absurd hfactory List.not_mem_nil
  refine ⟨⟨hskips, hskips', hkeep⟩, ?_, fun hnodup => ?_⟩
  · exact (emitted_names_nodup_iff _ _ _ _ _ hskips hkeep).mpr (by decide)
  · exact absurd ((emitted_names_nodup_iff _ _ _ _ _ hskips' hkeep).mp hnodup) (by decide)

/-- Two files of the same name are written to the same place, without any transformer. -/
theorem flattened_names_meet :
    Sample.flattenedProgram.skipsEmit = false ∧ ({} : TransformerGroup Unit).isEmpty = true ∧
    (Sample.flattenedProgram.written none ({} : TransformerGroup Unit) (fun _ _ => ())
      Sample.flattenedProgram.newContext ()).map Output.name = ["dist/a.js", "dist/a.js"] ∧
    ¬ ((Sample.flattenedProgram.written none ({} : TransformerGroup Unit) (fun _ _ => ())
      Sample.flattenedProgram.newContext ()).map Output.name).Nodup := by
  have hnames : (Sample.flattenedProgram.written none ({} : TransformerGroup Unit) (fun _ _ => ())
      Sample.flattenedProgram.newContext ()).map Output.name = ["dist/a.js", "dist/a.js"] := by
    decide
  refine ⟨by decide, rfl, hnames, ?_⟩
  rw [hnames]
  decide

end TransformerEngine
