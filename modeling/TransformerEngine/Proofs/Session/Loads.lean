import TransformerEngine.Proofs.Plugin.Loading
import TransformerEngine.Session.Basic

/-!
# What loading changes in a session

Loading plugins changes the caches of the session and, since modules are built in it, the
registry's count and the world (`Session.Loads`). Lineages, programs and the base directory
stay as they are, whether the plugins are found or not (`resolvePlugins_loads`).
-/

namespace TransformerEngine

variable {W : Type}

namespace Session

variable {session session' : Session W} {workspace workspace' : Workspace W}

/-- Session and workspace came to be `session'` and `workspace'` by loading plugins. -/
structure Loads (session : Session W) (workspace : Workspace W) (session' : Session W)
    (workspace' : Workspace W) : Prop where
  /-- Caches, registry and world changed in steps of loading. -/
  reaches : Reaches ModuleRegistry.resolve
    (session.cache, workspace.registry, workspace.world)
    (session'.cache, workspace'.registry, workspace'.world)
  /-- No program was entered or forgotten. -/
  lineage : session'.lineage = session.lineage
  baseDirectory : session'.baseDirectory = session.baseDirectory
  /-- No program was made. -/
  nextId : workspace'.nextId = workspace.nextId

theorem Loads.refl (session : Session W) (workspace : Workspace W) :
    session.Loads workspace session workspace := ⟨.refl, rfl, rfl, rfl⟩

/-- A loading in a session is one over its cache, and all else stays. -/
theorem load_eq_iff {α : Type} {loading : Loading W (ModuleRegistry W × W) α}
    {result : Except PluginError α} :
    load loading session workspace = (result, session', workspace') ↔
      loading.runOn session.cache (workspace.registry, workspace.world) =
        (result, session'.cache, workspace'.registry, workspace'.world) ∧
      session' = { session with cache := session'.cache } ∧
      workspace' =
        { workspace with registry := workspace'.registry, world := workspace'.world } := by
  rw [load]
  rcases loading.runOn session.cache (workspace.registry, workspace.world) with
    ⟨answer, cache, registry, world⟩
  constructor
  · intro h
    obtain ⟨rfl, rfl, rfl⟩ : answer = result ∧ { session with cache } = session' ∧
        { workspace with registry, world } = workspace' := by simpa using h
    exact ⟨rfl, rfl, rfl⟩
  · rintro ⟨h, hsession, hworkspace⟩
    obtain ⟨rfl, rfl, rfl, rfl⟩ : answer = result ∧ cache = session'.cache ∧
        registry = workspace'.registry ∧ world = workspace'.world := by simpa using h
    rw [hsession, hworkspace]

theorem loadPlugins_loads {ds : List PluginDescriptor}
    {result : Except PluginError (List (ResolvedTransform W))}
    (h : loadPlugins ds session workspace = (result, session', workspace')) :
    session.Loads workspace session' workspace' := by
  obtain ⟨hrun, hsession, hworkspace⟩ := load_eq_iff.mp h
  exact ⟨Loading.reaches_loadAll hrun, by rw [hsession], by rw [hsession], by rw [hworkspace]⟩

theorem resolvePlugins_of_error {options : CompilerOptions} {error : PluginError}
    (h : PluginDescriptor.ofEntries options.plugins session.baseDirectory = .error error) :
    resolvePlugins options session workspace = (.error error, session, workspace) := by
  rw [resolvePlugins, h]

theorem resolvePlugins_of_ok {options : CompilerOptions} {ds : List PluginDescriptor}
    (h : PluginDescriptor.ofEntries options.plugins session.baseDirectory = .ok ds) :
    resolvePlugins options session workspace = loadPlugins ds session workspace := by
  rw [resolvePlugins, h]

/-- **Finding plugins only loads.** -/
theorem resolvePlugins_loads {options : CompilerOptions}
    {result : Except PluginError (List (ResolvedTransform W))}
    (h : resolvePlugins options session workspace = (result, session', workspace')) :
    session.Loads workspace session' workspace' := by
  cases hread : PluginDescriptor.ofEntries options.plugins session.baseDirectory with
  | error error =>
    rw [resolvePlugins_of_error hread] at h
    obtain ⟨-, rfl, rfl⟩ : _ ∧ session = session' ∧ workspace = workspace' := by simpa using h
    exact .refl session workspace
  | ok ds =>
    rw [resolvePlugins_of_ok hread] at h
    exact loadPlugins_loads h

end Session

end TransformerEngine
