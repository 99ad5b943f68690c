/-!
# Plugin kinds and identities

The kind of a plugin says how its export is called. A plugin is known by its identity:
the module it comes from, the name it imports and its kind.
-/

namespace TransformerEngine

/-- How a plugin's export is called. -/
inductive PluginKind where
  /-- A factory that takes the context. -/
  | plain
  /-- A factory that takes the context and the plugin's entry. -/
  | config
  /-- A factory that is handed to emission as it is. -/
  | raw
  /-- A transform of whole programs, run before emission. -/
  | program
  /-- A factory that takes the context, the type checker and the entry. -/
  | checker
  /-- A factory that takes the context, the compiler options and the entry. -/
  | compilerOptions
deriving DecidableEq, Repr

namespace PluginKind

/-- The kind of an entry that names none. -/
instance : Inhabited PluginKind := ⟨plain⟩

/-- The kind as it is written. -/
def name : PluginKind → String
  | plain => "plain"
  | config => "config"
  | raw => "raw"
  | program => "program"
  | checker => "checker"
  | compilerOptions => "compilerOptions"

/-- All kinds. -/
def all : List PluginKind := [plain, config, raw, program, checker, compilerOptions]

/-- The kind that is written as `text`. -/
def ofName? (text : String) : Option PluginKind := all.find? fun kind => kind.name = text

theorem ofName?_name (kind : PluginKind) : ofName? kind.name = some kind := by
  cases kind <;> decide

end PluginKind

/-- The export that is read where none is named. -/
def defaultExport : String := "default"

/-- What a plugin is known by. -/
structure TransformIdentity where
  /-- The module it comes from. -/
  module : String
  /-- The name it imports, if it names one. -/
  importName : Option String
  /-- How its export is called. -/
  kind : PluginKind
deriving DecidableEq, Repr

/-- The identity in words. -/
def TransformIdentity.display (identity : TransformIdentity) : String :=
  s!"{identity.module}#{identity.importName.getD defaultExport} ({identity.kind.name})"

end TransformerEngine
