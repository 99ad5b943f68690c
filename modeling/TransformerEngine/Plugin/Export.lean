import TransformerEngine.Emit.Transformer
import TransformerEngine.Lineage.Script

/-!
# Transform modules

A module offers exports, each of which can be called in one way, under names and perhaps
one as its main value. Without a name, an import means the export called `default`, or
else the main value.

A `ModuleRegistry` finds modules by specifier. A module may be built once for all or anew
whenever it is asked for; building may change the world. The registry counts the modules
it has found.
-/

namespace TransformerEngine

variable {W : Type}

/-- An export, by the way it is called. -/
inductive TransformExport (W : Type) where
  /-- Takes the context. -/
  | factory (make : Factory W)
  /-- Takes the context and the entry. -/
  | configFactory (make : Json → Factory W)
  /-- Takes the context, the type checker and the entry. -/
  | checkerFactory (make : TypeChecker → Json → Factory W)
  /-- Takes the context, the compiler options and the entry. -/
  | optionsFactory (make : CompilerOptions → Json → Factory W)
  /-- Transforms whole programs. -/
  | program (transform : ProgramTransform W)

namespace TransformExport

/-- Whether the export can be called the way `kind` asks for. -/
def supports (self : TransformExport W) (kind : PluginKind) : Bool :=
  match kind, self with
  | .plain, .factory _ => true
  | .raw, .factory _ => true
  | .config, .configFactory _ => true
  | .checker, .checkerFactory _ => true
  | .compilerOptions, .optionsFactory _ => true
  | .program, .program _ => true
  | _, _ => false

/-- The way the export is called, in words. -/
def describe : TransformExport W → String
  | factory _ => "TransformExport::Factory"
  | configFactory _ => "TransformExport::ConfigFactory"
  | checkerFactory _ => "TransformExport::CheckerFactory"
  | optionsFactory _ => "TransformExport::CompilerOptionsFactory"
  | program _ => "TransformExport::Program"

end TransformExport

/-- A module of transforms. -/
structure TransformModule (W : Type) where
  /-- The value of the module itself. -/
  main : Option (TransformExport W) := none
  /-- The exports by name, in the order in which the names were first used. -/
  exports : Table String (TransformExport W) := Table.empty

namespace TransformModule

/-- The module with another main value. -/
def withMain (module : TransformModule W) (main : TransformExport W) : TransformModule W :=
  { module with main := some main }

/-- The module with an export under a name, in place of one that had the name. -/
def withExport (module : TransformModule W) (name : String) (value : TransformExport W) :
    TransformModule W :=
  { module with exports := module.exports.insert name value }

/-- The export that an import means. -/
def resolve (module : TransformModule W) : Option String → Option (TransformExport W)
  | some name => module.exports.find? name
  | none => (module.exports.find? defaultExport).or module.main

/-- The names of the exports, in order. -/
def exportNames (module : TransformModule W) : List String := module.exports.keys

end TransformModule

/-- Builds a module. -/
abbrev ModuleBuilder (W : Type) := W → TransformModule W × W

/-- Modules by specifier. -/
structure ModuleRegistry (W : Type) where
  /-- How each module is built. -/
  builders : Table String (ModuleBuilder W) := Table.empty
  /-- How many modules have been found. -/
  evaluations : Nat := 0

namespace ModuleRegistry

/-- The registry with a module that is built whenever it is asked for. -/
def registerLazy (registry : ModuleRegistry W) (specifier : String)
    (builder : ModuleBuilder W) : ModuleRegistry W :=
  { registry with builders := registry.builders.insert specifier builder }

/-- The registry with a module that is built already. -/
def register (registry : ModuleRegistry W) (specifier : String) (module : TransformModule W) :
    ModuleRegistry W :=
  registry.registerLazy specifier fun world => (module, world)

/-- Look a module up: it, if there is one, and registry and world afterwards. -/
def resolve (specifier : String) (state : ModuleRegistry W × W) :
    Option (TransformModule W) × ModuleRegistry W × W :=
  match state.1.builders.find? specifier with
  | some builder =>
    let (module, world) := builder state.2
    (some module, { state.1 with evaluations := state.1.evaluations + 1 }, world)
  | none => (none, state)

end ModuleRegistry

end TransformerEngine
