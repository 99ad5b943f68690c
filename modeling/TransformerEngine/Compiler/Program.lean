import TransformerEngine.Compiler.Diagnostic
import TransformerEngine.Compiler.Host
import TransformerEngine.Compiler.Options

/-!
# Programs

A `Program` is a set of source files compiled together. It is made from root names and a
host; imports are not followed, so its files are the distinct roots that the host has,
and each root that the host lacks is reported. Programs are never changed: whatever wants
other files makes another program, under another number.
-/

namespace TransformerEngine

/-- The number that tells programs apart. -/
structure ProgramId where
  /-- Programs are numbered in the order in which they are made. -/
  number : Nat
deriving DecidableEq, Repr, Inhabited

/-- The number of the program made next. -/
def ProgramId.next (id : ProgramId) : ProgramId := ⟨id.number + 1⟩

/-- A set of source files compiled together. -/
structure Program where
  /-- Which program this is. -/
  id : ProgramId
  /-- The names it was asked to compile. -/
  rootNames : List String
  /-- The options it is compiled with. -/
  options : CompilerOptions
  /-- The files that were found, by root name. -/
  sourceFiles : Table String SourceFile
  /-- What was wrong with the program as a whole. -/
  diagnostics : List Diagnostic
deriving DecidableEq

/-- What a transformer that asks about types is handed: which program it works for, and
that program's files. -/
structure TypeChecker where
  /-- The program. -/
  program : ProgramId
  /-- The names of its files. -/
  fileNames : List String
deriving DecidableEq

namespace Program

/-- The diagnostic about a root that the host lacks. -/
def fileNotFound (name : String) : Diagnostic := .error 6053 s!"File '{name}' not found."

/-- The files and diagnostics with one more root taken in. A root that was found already
is not looked for again. -/
def addRoot (host : CompilerHost) (target : ScriptTarget)
    (found : Table String SourceFile × List Diagnostic) (name : String) :
    Table String SourceFile × List Diagnostic :=
  if found.1.contains name then found
  else
    match host.sourceFile name target with
    | some file => (found.1.insert name file, found.2)
    | none => (found.1, found.2 ++ [fileNotFound name])

/-- The program of the root names `roots`, with the number `id`. -/
def create (roots : List String) (options : CompilerOptions) (host : CompilerHost)
    (id : ProgramId) : Program :=
  let found := roots.foldl (addRoot host options.scriptTarget) (Table.empty, [])
  ⟨id, roots, options, found.1, found.2⟩

/-- The file of a root name. -/
def sourceFile? (program : Program) (name : String) : Option SourceFile :=
  program.sourceFiles.find? name

/-- The files, in order. -/
def files (program : Program) : List SourceFile := program.sourceFiles.values

/-- The handle for questions about types. -/
def typeChecker (program : Program) : TypeChecker :=
  ⟨program.id, program.sourceFiles.keys⟩

end Program

end TransformerEngine
