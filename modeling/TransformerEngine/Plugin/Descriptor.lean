import TransformerEngine.Emit.Transformer
import TransformerEngine.Plugin.Kind

/-!
# Plugin descriptors

One configured plugin: where it is loaded from, how it is called and when it runs. The
entry that configured it is kept as it was written, since some plugins are handed it.
-/

namespace TransformerEngine

/-- A configured plugin. -/
structure PluginDescriptor where
  /-- The module that it is loaded from. -/
  module : String
  /-- The name that it imports; without one, the default export is meant. -/
  importName : Option String := none
  /-- How its export is called. -/
  kind : PluginKind := .plain
  /-- When it runs. -/
  phase : Phase := .before
  /-- Whether it runs on the whole program before emission. -/
  beforeEmit : Bool := false
  /-- The entry that configured it. -/
  config : Json := .object []
deriving DecidableEq

namespace PluginDescriptor

/-- The descriptor with another import. -/
def withImport (d : PluginDescriptor) (importName : String) : PluginDescriptor :=
  { d with importName := some importName }

/-- The descriptor with another kind. Transforms of whole programs run before emission. -/
def withKind (d : PluginDescriptor) (kind : PluginKind) : PluginDescriptor :=
  { d with kind, beforeEmit := kind = .program }

/-- The descriptor with another phase. -/
def withPhase (d : PluginDescriptor) (phase : Phase) : PluginDescriptor := { d with phase }

/-- The descriptor with another entry. -/
def withConfig (d : PluginDescriptor) (config : Json) : PluginDescriptor := { d with config }

/-- What the plugin is known by. -/
def identity (d : PluginDescriptor) : TransformIdentity := ⟨d.module, d.importName, d.kind⟩

/-- The name of the export that it reads. -/
def exportName (d : PluginDescriptor) : String := d.importName.getD defaultExport

/-- Whether it transforms whole programs. -/
def isProgramTransform (d : PluginDescriptor) : Bool := d.kind = .program

end PluginDescriptor

end TransformerEngine
