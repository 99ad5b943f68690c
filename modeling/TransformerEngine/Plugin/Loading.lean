import TransformerEngine.Plugin.Descriptor
import TransformerEngine.Plugin.Export

/-!
# Loading plugins

Loading a descriptor finds its module, picks the export and checks that it can be called
the way the descriptor asks for. Modules are kept by specifier once they were found, and
exports by identity once they passed the check; failures are not kept. Where modules come
from is a function on a state `σ` and may answer differently each time it is asked.
-/

namespace TransformerEngine

variable {W σ : Type}

/-- A descriptor with the export that it resolved to. -/
structure ResolvedTransform (W : Type) where
  /-- The descriptor. -/
  descriptor : PluginDescriptor
  /-- The export. -/
  value : TransformExport W

/-- What the transform is known by. -/
def ResolvedTransform.identity (t : ResolvedTransform W) : TransformIdentity :=
  t.descriptor.identity

/-- What has been loaded so far. -/
structure ModuleCache (W : Type) where
  /-- The modules found, by specifier. -/
  modules : Table String (TransformModule W) := Table.empty
  /-- The exports that passed the check, by identity. -/
  exports : Table TransformIdentity (TransformExport W) := Table.empty

/-- How modules are found. -/
abbrev Resolver (W σ : Type) := String → σ → Option (TransformModule W) × σ

/-- Loading: it may fail, and what was loaded before the failure stays loaded. -/
abbrev Loading (W σ α : Type) := ExceptT PluginError (StateM (ModuleCache W × σ)) α

/-- The export that a descriptor means in a module. -/
def selectExport (module : TransformModule W) (d : PluginDescriptor) :
    Except PluginError (TransformExport W) :=
  match module.resolve d.importName with
  | none => .error (.transformExport d.module d.exportName)
  | some value =>
    if value.supports d.kind then .ok value
    else .error (.incompatibleExport d.module d.exportName d.kind)

namespace Loading

/-- The module of a specifier, found once and kept. -/
def loadModule (resolve : Resolver W σ) (specifier : String) :
    Loading W σ (TransformModule W) := do
  let (cache, state) ← get
  match cache.modules.find? specifier with
  | some module => return module
  | none =>
    match resolve specifier state with
    | (some module, state) =>
      set (({ cache with modules := cache.modules.insert specifier module } : ModuleCache W),
        state)
      return module
    | (none, state) =>
      set (cache, state)
      throw (.transformLoad specifier)

/-- The transform of a descriptor. -/
def load (resolve : Resolver W σ) (d : PluginDescriptor) :
    Loading W σ (ResolvedTransform W) := do
  match (← get).1.exports.find? d.identity with
  | some value => return ⟨d, value⟩
  | none =>
    let module ← loadModule resolve d.module
    let value ← liftExcept (selectExport module d)
    modify fun (cache, state) =>
      ({ cache with exports := cache.exports.insert d.identity value }, state)
    return ⟨d, value⟩
where
  /-- A result that was there already. -/
  liftExcept {α : Type} : Except PluginError α → Loading W σ α
    | .ok value => pure value
    | .error error => throw error

/-- The transforms of descriptors, in order, up to the first failure. -/
def loadAll (resolve : Resolver W σ) :
    List PluginDescriptor → Loading W σ (List (ResolvedTransform W))
  | [] => return []
  | d :: rest => do
    let first ← load resolve d
    let others ← loadAll resolve rest
    return first :: others

end Loading

/-- Run a loading: its result, and cache and state afterwards. -/
def Loading.runOn {α : Type} (loading : Loading W σ α) (cache : ModuleCache W) (state : σ) :
    Except PluginError α × ModuleCache W × σ :=
  (ExceptT.run loading).run (cache, state)

end TransformerEngine
