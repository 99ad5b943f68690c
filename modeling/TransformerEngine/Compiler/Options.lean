import TransformerEngine.Compiler.ScriptTarget
import TransformerEngine.Json.Issue

/-!
# Compiler options

The options that this library reads (`OptionKey`) have fields of their own; all others
are kept as they were written, in order. Options are read from the members of a JSON
object one by one (`Draft`): a known key may stand only once and its value must have the
right type, `null` standing for absence; an unknown key may be repeated and takes its
last value.

`CompilerOptions.ofMembers` reads options from members, `CompilerOptions.toJson` writes
them: known options first, then the others.
-/

namespace TransformerEngine

/-- The options with a field of their own. -/
inductive OptionKey where
  | target
  | declaration
  | noEmit
  | noEmitOnError
  | noLib
  | noResolve
  | outDir
  | rootDir
  | lib
  | types
  | plugins
deriving DecidableEq, Repr

namespace OptionKey

/-- The key as it is written. -/
def name : OptionKey → String
  | target => "target"
  | declaration => "declaration"
  | noEmit => "noEmit"
  | noEmitOnError => "noEmitOnError"
  | noLib => "noLib"
  | noResolve => "noResolve"
  | outDir => "outDir"
  | rootDir => "rootDir"
  | lib => "lib"
  | types => "types"
  | plugins => "plugins"

/-- All keys, in the order in which they are written. -/
def all : List OptionKey :=
  [target, declaration, noEmit, noEmitOnError, noLib, noResolve, outDir, rootDir, lib, types,
    plugins]

/-- The key that is written as `text`. -/
def ofName? (text : String) : Option OptionKey := all.find? fun key => key.name = text

theorem ofName?_name (key : OptionKey) : ofName? key.name = some key := by
  cases key <;> decide

theorem name_of_ofName? {text : String} {key : OptionKey} (h : ofName? text = some key) :
    key.name = text := by
  simpa using List.find?_some h

end OptionKey

/-- The options of a compilation. -/
structure CompilerOptions where
  /-- The language version to aim at. -/
  target : Option ScriptTarget := none
  /-- Whether declarations are written too. -/
  declaration : Option Bool := none
  /-- Whether nothing is written. -/
  noEmit : Option Bool := none
  /-- Whether nothing is written if the program has diagnostics. -/
  noEmitOnError : Option Bool := none
  /-- Whether the default library is left out. -/
  noLib : Option Bool := none
  /-- Whether imports are left unresolved. -/
  noResolve : Option Bool := none
  /-- The directory that output goes to. -/
  outDir : Option String := none
  /-- The directory that source names are relative to. -/
  rootDir : Option String := none
  /-- The library files to include. -/
  lib : Option (List String) := none
  /-- The type packages to include. -/
  types : Option (List String) := none
  /-- The plugin entries, as written. -/
  plugins : List Json := []
  /-- All other options, as written. -/
  other : Table String Json := Table.empty
deriving DecidableEq

namespace CompilerOptions

instance : Inhabited CompilerOptions := ⟨{}⟩

/-- The language version to aim at, `es5` where none is given. -/
def scriptTarget (options : CompilerOptions) : ScriptTarget := options.target.getD default

/-- The options with other plugin entries. -/
def withPlugins (options : CompilerOptions) (plugins : List Json) : CompilerOptions :=
  { options with plugins }

/-- The options a new project starts from. -/
def standard : CompilerOptions := { target := some .es5 }

/-! ### Writing -/

/-- The value of a known option as it is written, if it is written. -/
def field? (options : CompilerOptions) : OptionKey → Option Json
  | .target => options.target.map fun t => .string t.name
  | .declaration => options.declaration.map .bool
  | .noEmit => options.noEmit.map .bool
  | .noEmitOnError => options.noEmitOnError.map .bool
  | .noLib => options.noLib.map .bool
  | .noResolve => options.noResolve.map .bool
  | .outDir => options.outDir.map .string
  | .rootDir => options.rootDir.map .string
  | .lib => options.lib.map fun names => .array (names.map .string)
  | .types => options.types.map fun names => .array (names.map .string)
  | .plugins => if options.plugins = [] then none else some (.array options.plugins)

/-- The members of the options as an object: the known ones that are given, then the
others. -/
def members (options : CompilerOptions) : List (String × Json) :=
  (OptionKey.all.filterMap fun key => (options.field? key).map fun value => (key.name, value))
    ++ options.other.entries

/-- The options as a JSON object. -/
def toJson (options : CompilerOptions) : Json := .object options.members

/-! ### Reading -/

/-- The issue with `value` where `expected` is asked for. -/
def mismatch {α : Type} (expected : String) (value : Json) : Except Json.Issue α :=
  .error (.wrongType (.ofJson value) expected)

/-- A truth value. -/
def readFlag : Json → Except Json.Issue Bool
  | .bool b => .ok b
  | value => mismatch "a boolean" value

/-- A text. -/
def readText : Json → Except Json.Issue String
  | .string text => .ok text
  | value => mismatch "a string" value

/-- A list of texts. -/
def readTexts : Json → Except Json.Issue (List String)
  | .array items => items.mapM readText
  | value => mismatch "a sequence" value

/-- A script target. -/
def readTarget (value : Json) : Except Json.Issue ScriptTarget := do
  let text ← readText value
  match ScriptTarget.ofString? text with
  | some target => .ok target
  | none => .error (.refused (ScriptTarget.unknownMessage text))

/-- A value that may be `null` for absence. -/
def readNullable {α : Type} (read : Json → Except Json.Issue α) :
    Json → Except Json.Issue (Option α)
  | .null => .ok none
  | value => some <$> read value

/-- The options with the known option `key` read from `value`. -/
def set (options : CompilerOptions) (key : OptionKey) (value : Json) :
    Except Json.Issue CompilerOptions :=
  match key with
  | .target => do return { options with target := ← readNullable readTarget value }
  | .declaration => do return { options with declaration := ← readNullable readFlag value }
  | .noEmit => do return { options with noEmit := ← readNullable readFlag value }
  | .noEmitOnError => do return { options with noEmitOnError := ← readNullable readFlag value }
  | .noLib => do return { options with noLib := ← readNullable readFlag value }
  | .noResolve => do return { options with noResolve := ← readNullable readFlag value }
  | .outDir => do return { options with outDir := ← readNullable readText value }
  | .rootDir => do return { options with rootDir := ← readNullable readText value }
  | .lib => do return { options with lib := ← readNullable readTexts value }
  | .types => do return { options with types := ← readNullable readTexts value }
  | .plugins =>
    match value with
    | .array entries => .ok { options with plugins := entries }
    | _ => mismatch "a sequence" value

end CompilerOptions

/-- Options that are being read: what the members so far came to, and the known keys
among them. -/
structure OptionsDraft where
  /-- The options read so far. -/
  options : CompilerOptions := {}
  /-- The known keys met so far. -/
  seen : List OptionKey := []

namespace OptionsDraft

/-- Whether a member under `key` may follow: a known key that was met already may not. -/
def permit (draft : OptionsDraft) (key : String) : Except Json.Issue Unit :=
  match OptionKey.ofName? key with
  | some known => if known ∈ draft.seen then .error (.duplicateField key) else .ok ()
  | none => .ok ()

/-- The draft with the member `key` read from `value`. -/
def put (draft : OptionsDraft) (key : String) (value : Json) :
    Except Json.Issue OptionsDraft :=
  match OptionKey.ofName? key with
  | some known => do
    let options ← draft.options.set known value
    .ok ⟨options, known :: draft.seen⟩
  | none =>
    .ok { draft with
      options := { draft.options with other := draft.options.other.insert key value } }

/-- The draft with one more member. -/
def step (draft : OptionsDraft) (entry : String × Json) : Except Json.Issue OptionsDraft := do
  draft.permit entry.1
  draft.put entry.1 entry.2

end OptionsDraft

/-- The options that the members of an object come to, in order; the first issue ends the
reading. -/
def CompilerOptions.ofMembers (members : List (String × Json)) :
    Except Json.Issue CompilerOptions :=
  OptionsDraft.options <$> members.foldlM OptionsDraft.step {}

end TransformerEngine
