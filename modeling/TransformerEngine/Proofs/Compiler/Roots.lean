import TransformerEngine.Proofs.Compiler.Creation
import TransformerEngine.Proofs.Emit.Trace

/-!
# Every root is accounted for

A program is made root by root, by a loop that passes over a root that was found before
and knows nothing of those that were not. What it comes to depends on neither: every root
is either among the files or reported as missing (`Program.create_accounts_for_roots`).

`Proofs.Compiler.Creation` says which entries the loop leaves in the table of files. Here
the table is asked, by name (`Program.find?_suppliedFiles`), for its names
(`Program.keys_suppliedFiles`) and for its files (`Program.values_suppliedFiles`), and the
emission is asked what it makes of the roots that are missing
(`Program.skipped_iff_missing`).
-/

namespace TransformerEngine

namespace Program

variable {supply : String → Option SourceFile} {names : List String}

/-! ### Questions to the files of a program -/

theorem find?_filterMap_supply (name : String) :
    Entries.find? name (names.filterMap fun n => (supply n).map (n, ·)) =
      if name ∈ names then supply name else none := by
  induction names with
  | nil => rfl
  | cons n rest ih =>
    cases hfile : supply n with
    | none =>
      -- a name without a file is not found, here or later
      rw [List.filterMap_cons_none (by rw [hfile]; rfl), ih]
      by_cases h : name = n
      · subst h
        simp [hfile]
      · simp [h]
    | some file =>
      rw [List.filterMap_cons_some (by rw [hfile]; rfl), Entries.find?]
      by_cases h : n = name
      · subst h
        rw [if_pos rfl, if_pos (List.mem_cons_self ..), hfile]
      · rw [if_neg h, ih]
        simp [Ne.symm h]

/-- A name leads to the file that there is of it, if it is among the names. -/
theorem find?_suppliedFiles (name : String) :
    Entries.find? name (suppliedFiles supply names) =
      if name ∈ names then supply name else none := by
  rw [suppliedFiles, find?_filterMap_supply]
  simp only [List.mem_eraseDups]

/-- The names of files are those that there is a file of, each once and in order. -/
theorem keys_suppliedFiles : Entries.keys (suppliedFiles supply names) =
    names.eraseDups.filter fun name => (supply name).isSome := by
  rw [suppliedFiles, Entries.keys, List.map_filterMap, ← List.filterMap_eq_filter]
  refine List.filterMap_congr fun name _ => ?_
  cases hfile : supply name <;> simp [Option.guard, hfile]

theorem values_suppliedFiles :
    (suppliedFiles supply names).map Prod.snd = names.eraseDups.filterMap supply := by
  rw [suppliedFiles, List.map_filterMap]
  refine List.filterMap_congr fun name _ => ?_
  cases supply name <;> rfl

/-- Where files are supplied under the names that were asked for, they go by these names. -/
theorem map_name_filterMap (h : ∀ name ∈ names, ∀ file, supply name = some file →
      file.name = name) :
    (names.filterMap supply).map SourceFile.name =
      names.filter fun name => (supply name).isSome := by
  rw [List.map_filterMap, ← List.filterMap_eq_filter]
  refine List.filterMap_congr fun name hname => ?_
  cases hfile : supply name with
  | none => simp [Option.guard, hfile]
  | some file => simp [Option.guard, hfile, h name hname file hfile]

theorem missingNames_eq_nil :
    missingNames supply names = [] ↔ ∀ name ∈ names, supply name ≠ none := by
  rw [missingNames, List.filter_eq_nil_iff]
  refine forall₂_congr fun name _ => ?_
  rw [Option.isNone_iff_eq_none]

/-! ### Whether a program is emitted -/

variable {W : Type} (roots : List String) (options : CompilerOptions) (host : CompilerHost)
variable (id : ProgramId)

/-- Whether an emission is skipped is decided by the options and the roots alone. -/
theorem skipped_iff_missing (target : Option SourceFile) (group : TransformerGroup W)
    (write : Writer W) (stage : Stage W) :
    (((create roots options host id).emitOutputs target group write).run stage).1.1.skipped = true ↔
      options.noEmit = some true ∨
        options.noEmitOnError = some true ∧
          ∃ name ∈ roots, host.sourceFile name options.scriptTarget = none := by
  have hskipped : (((create roots options host id).emitOutputs target group write).run
      stage).1.1.skipped = (create roots options host id).skipsEmit :=
    congrArg EmitResult.skipped ((create roots options host id).emitOutputs_result target group
      write stage.context stage.world)
  have hmissing : (create roots options host id).diagnostics ≠ [] ↔
      ∃ name ∈ roots, host.sourceFile name options.scriptTarget = none := by
    rw [create_diagnostics, Ne, List.map_eq_nil_iff, missingNames_eq_nil]
    simp
  rw [hskipped, skipsEmit_iff]
  exact or_congr Iff.rfl (and_congr Iff.rfl hmissing)

/-! A program of roots that are there, missing and repeated. -/

namespace Sample

/-- A host of two files. -/
def library : CompilerHost :=
  (MemoryHost.writeAll { currentDirectory := "/" } [("a.ts", "a"), ("b.ts", "b")]).toHost

/-- One root is missing, and each of the others is asked for twice. -/
def wanted : List String := ["gone.ts", "b.ts", "a.ts", "gone.ts", "b.ts", "a.ts"]

/-- Nothing is emitted while there are errors. -/
def strict : CompilerOptions := { noEmitOnError := some true }

end Sample

/-- **Every root is accounted for.** Whatever the roots of a program are, and whatever its
host has: its files are those that the host supplies of its roots, each root once and where
it stands first. They are kept under the names of their roots, so that a name leads to a
file exactly if it is a root that the host has, and to what the host has of it; and where
the host answers under the name that it was asked for, files go by these names too. What is
reported is, in order and as often as it was asked for, each root that the host lacks, and
nothing else. The handle for questions about types lists the names of the files. And an
emission of the whole program, in whatever context, is skipped exactly if the options
forbid it always, or forbid it on errors and some root is missing. -/
theorem create_accounts_for_roots :
    let program := create roots options host id
    let supply := fun name => host.sourceFile name options.scriptTarget
    program.files = roots.eraseDups.filterMap supply ∧
    program.sourceFiles.keys = (roots.eraseDups.filter fun name => (supply name).isSome) ∧
    (∀ name, program.sourceFile? name = if name ∈ roots then supply name else none) ∧
    (∀ name, (program.sourceFile? name).isSome = true ↔
      name ∈ roots ∧ (supply name).isSome = true) ∧
    ((∀ name ∈ roots, ∀ file, supply name = some file → file.name = name) →
      program.files.map SourceFile.name = program.sourceFiles.keys) ∧
    program.diagnostics = ((roots.filter fun name => (supply name).isNone).map fun name =>
      Diagnostic.error 6053 s!"File '{name}' not found.") ∧
    program.typeChecker = ⟨id, program.sourceFiles.keys⟩ ∧
    ∀ (group : TransformerGroup W) (write : Writer W) (stage : Stage W),
      ((program.emitOutputs none group write).run stage).1.1.skipped = true ↔
        options.noEmit = some true ∨
          options.noEmitOnError = some true ∧ ∃ name ∈ roots, supply name = none := by
  intro program supply
  have hentries : program.sourceFiles.entries = suppliedFiles supply roots :=
    create_entries roots options host id
  have hfiles : program.files = roots.eraseDups.filterMap supply := by
    rw [files, Table.values, hentries, values_suppliedFiles]
  have hkeys : program.sourceFiles.keys =
      (roots.eraseDups.filter fun name => (supply name).isSome) := by
    rw [Table.keys, hentries, keys_suppliedFiles]
  have hfind : ∀ name, program.sourceFile? name = if name ∈ roots then supply name else none := by
    intro name
    rw [sourceFile?, Table.find?, hentries, find?_suppliedFiles]
  refine ⟨hfiles, hkeys, hfind, fun name => ?_, fun hnames => ?_,
    create_diagnostics roots options host id, rfl,
    fun group write stage => skipped_iff_missing roots options host id none group write stage⟩
  · rw [hfind]
    by_cases h : name ∈ roots <;> simp [h]
  · rw [hfiles, hkeys]
    exact map_name_filterMap fun name hname => hnames name (List.mem_eraseDups.mp hname)

/-- The missing root is reported twice, the others are compiled once, in the order in which
they are asked for first, and nothing is emitted. -/
theorem create_accounts_for_roots_sample :
    (∀ name ∈ Sample.wanted, ∀ file,
      Sample.library.sourceFile name Sample.strict.scriptTarget = some file → file.name = name) ∧
    let program := create Sample.wanted Sample.strict Sample.library ⟨7⟩
    program.files.map SourceFile.name = ["b.ts", "a.ts"] ∧
    (program.sourceFile? "gone.ts").isSome = false ∧
    program.diagnostics.length = 2 ∧
    (((program.emitOutputs none {} fun _ (w : Unit) => w).run ⟨program.newContext, ()⟩).1.1.skipped =
      true) := by
  obtain ⟨-, hkeys, -, hpresent, hnames, hmissing, -, hskipped⟩ :=
    create_accounts_for_roots (W := Unit) Sample.wanted Sample.strict Sample.library ⟨7⟩
  have hown : ∀ name ∈ Sample.wanted, ∀ file,
      Sample.library.sourceFile name Sample.strict.scriptTarget = some file →
        file.name = name := by
    decide
  refine ⟨hown, ?_, ?_, ?_, ?_⟩
  · rw [hnames hown, hkeys]
    decide
  · rw [← Bool.not_eq_true, hpresent]
    decide
  · rw [hmissing]
    decide
  · rw [hskipped]
    exact .inr ⟨rfl, "gone.ts", List.mem_cons_self .., by decide⟩

end Program

end TransformerEngine
