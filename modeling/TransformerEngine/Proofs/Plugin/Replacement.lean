import TransformerEngine.Proofs.Plugin.Loading

/-!
# Loading does not call what it loads

What a plugin does when it is called makes no difference to loading it. A `Replacement`
puts other exports in the place of those that there are, each callable in the same ways as
the one it stands for, and otherwise anything at all. Loading from replaced modules comes
to the replaced plugins, or to the very same error, and leaves the same world
(`loadAll_replaced`).
-/

namespace TransformerEngine

/-! ### Tables with other values -/

section MapValues

variable {κ ν μ : Type} [DecidableEq κ] (f : ν → μ)

omit [DecidableEq κ] in
theorem Entries.keys_map (entries : List (κ × ν)) :
    keys (entries.map fun e => (e.1, f e.2)) = keys entries := by
  rw [keys, keys, List.map_map]
  rfl

theorem Entries.find?_map (key : κ) (entries : List (κ × ν)) :
    find? key (entries.map fun e => (e.1, f e.2)) = (find? key entries).map f := by
  induction entries with
  | nil => rfl
  | cons e rest ih =>
    by_cases hk : e.1 = key
    · simp [find?, hk]
    · simpa [find?, hk] using ih

theorem Entries.map_insert (key : κ) (value : ν) (entries : List (κ × ν)) :
    (insert key value entries).map (fun e => (e.1, f e.2)) =
      insert key (f value) (entries.map fun e => (e.1, f e.2)) := by
  induction entries with
  | nil => rfl
  | cons e rest ih =>
    by_cases hk : e.1 = key
    · simp [insert, hk]
    · simpa [insert, hk] using ih

/-- The table with other values under its keys. -/
def Table.mapValues (table : Table κ ν) : Table κ μ where
  entries := table.entries.map fun e => (e.1, f e.2)
  nodup := (Entries.keys_map f table.entries).symm ▸ table.nodup

theorem Table.find?_mapValues (table : Table κ ν) (key : κ) :
    (table.mapValues f).find? key = (table.find? key).map f :=
  Entries.find?_map f key table.entries

theorem Table.mapValues_insert (table : Table κ ν) (key : κ) (value : ν) :
    (table.insert key value).mapValues f = (table.mapValues f).insert key (f value) :=
  Table.ext (Entries.map_insert f key value table.entries)

end MapValues

variable {W : Type}

/-! ### Replacements -/

/-- Other exports in the place of those that there are. -/
structure Replacement (W : Type) where
  /-- What stands in the place of an export. -/
  apply : TransformExport W → TransformExport W
  /-- It can be called in the same ways. -/
  supports_apply : ∀ value kind, (apply value).supports kind = value.supports kind

namespace Replacement

variable (φ : Replacement W)

/-- The module with its exports replaced. -/
def onModule (module : TransformModule W) : TransformModule W :=
  ⟨module.main.map φ.apply, module.exports.mapValues φ.apply⟩

/-- The builder of the module with its exports replaced. -/
def onBuilder (builder : ModuleBuilder W) : ModuleBuilder W :=
  fun world => (φ.onModule (builder world).1, (builder world).2)

/-- The registry of the replaced modules. -/
def onRegistry (registry : ModuleRegistry W) : ModuleRegistry W :=
  { registry with builders := registry.builders.mapValues φ.onBuilder }

/-- The cache with everything in it replaced. -/
def onCache (cache : ModuleCache W) : ModuleCache W :=
  ⟨cache.modules.mapValues φ.onModule, cache.exports.mapValues φ.apply⟩

/-- The plugin with its export replaced. -/
def onPlugin (t : ResolvedTransform W) : ResolvedTransform W := ⟨t.descriptor, φ.apply t.value⟩

theorem resolve_module (module : TransformModule W) (name : Option String) :
    (φ.onModule module).resolve name = (module.resolve name).map φ.apply := by
  cases name with
  | some name => exact Table.find?_mapValues ..
  | none =>
    show (Table.find? _ _).or _ = ((module.exports.find? defaultExport).or module.main).map φ.apply
    rw [onModule, Table.find?_mapValues]
    cases module.exports.find? defaultExport <;> rfl

theorem selectExport_module (module : TransformModule W) (d : PluginDescriptor) :
    selectExport (φ.onModule module) d = (selectExport module d).map φ.apply := by
  rw [selectExport, selectExport, resolve_module]
  cases module.resolve d.importName with
  | none => rfl
  | some value =>
    simp only [Option.map_some, φ.supports_apply]
    cases value.supports d.kind <;> rfl

theorem resolve_registry (specifier : String) (registry : ModuleRegistry W) (world : W) :
    ModuleRegistry.resolve specifier (φ.onRegistry registry, world) =
      ((ModuleRegistry.resolve specifier (registry, world)).1.map φ.onModule,
        φ.onRegistry (ModuleRegistry.resolve specifier (registry, world)).2.1,
        (ModuleRegistry.resolve specifier (registry, world)).2.2) := by
  rw [ModuleRegistry.resolve, ModuleRegistry.resolve, onRegistry, Table.find?_mapValues]
  cases hb : registry.builders.find? specifier <;> rfl

/-! ### Loading what was replaced -/

variable {φ} {before after : ModuleCache W} {registry registry' : ModuleRegistry W}
variable {world world' : W}

theorem loadModule_replaced {specifier : String} {result : Except PluginError (TransformModule W)}
    (h : (Loading.loadModule ModuleRegistry.resolve specifier).runOn before (registry, world) =
      (result, after, registry', world')) :
    (Loading.loadModule ModuleRegistry.resolve specifier).runOn (φ.onCache before)
        (φ.onRegistry registry, world) =
      (result.map φ.onModule, φ.onCache after, φ.onRegistry registry', world') := by
  rw [Loading.runOn_loadModule] at h ⊢
  rw [onCache, Table.find?_mapValues]
  cases hm : before.modules.find? specifier with
  | some kept =>
    simp only [hm, Prod.mk.injEq] at h
    obtain ⟨rfl, rfl, rfl, rfl⟩ := h
    rfl
  | none =>
    simp only [Option.map_none, resolve_registry]
    rcases hr : ModuleRegistry.resolve specifier (registry, world) with ⟨_ | found, last⟩
    · simp only [hm, hr, Prod.mk.injEq] at h
      obtain ⟨rfl, rfl, rfl⟩ := h
      rfl
    · simp only [hm, hr, Prod.mk.injEq] at h
      obtain ⟨rfl, rfl, rfl⟩ := h
      simp only [Option.map_some, onCache, Table.mapValues_insert]
      rfl

theorem load_replaced {d : PluginDescriptor} {result : Except PluginError (ResolvedTransform W)}
    (h : (Loading.load ModuleRegistry.resolve d).runOn before (registry, world) =
      (result, after, registry', world')) :
    (Loading.load ModuleRegistry.resolve d).runOn (φ.onCache before) (φ.onRegistry registry, world) =
      (result.map φ.onPlugin, φ.onCache after, φ.onRegistry registry', world') := by
  have houtcome := Loading.outcome_load ModuleRegistry.resolve d before (registry, world)
  rw [h] at houtcome
  -- what is in the cache is asked first, then the module
  have hcache : (φ.onCache before).exports.find? d.identity =
      (before.exports.find? d.identity).map φ.apply := Table.find?_mapValues ..
  rw [Loading.runOn_load, hcache]
  cases houtcome with
  | cached hvalue => rw [hvalue]; rfl
  | missing hnew hmodule hresolve =>
    have hloaded : (Loading.loadModule ModuleRegistry.resolve d.module).runOn before
        (registry, world) = (.error (.transformLoad d.module), before, registry', world') := by
      rw [Loading.runOn_loadModule, hmodule, hresolve]
    rw [hnew, loadModule_replaced hloaded]
    rfl
  | refused hnew hmodule herror =>
    rw [hnew, loadModule_replaced hmodule]
    simp only [Option.map_none, Except.map, selectExport_module, herror]
  | selected hnew hmodule hvalue =>
    rw [hnew, loadModule_replaced hmodule]
    simp only [Option.map_none, Except.map, selectExport_module, hvalue, onCache,
      Table.mapValues_insert]
    rfl

/-- **Loading does not call what it loads.** -/
theorem loadAll_replaced {ds : List PluginDescriptor}
    {result : Except PluginError (List (ResolvedTransform W))}
    (h : (Loading.loadAll ModuleRegistry.resolve ds).runOn before (registry, world) =
      (result, after, registry', world')) :
    (Loading.loadAll ModuleRegistry.resolve ds).runOn (φ.onCache before)
        (φ.onRegistry registry, world) =
      (result.map (List.map φ.onPlugin), φ.onCache after, φ.onRegistry registry', world') := by
  induction ds generalizing before registry world result with
  | nil =>
    rw [Loading.runOn_loadAll_nil] at h ⊢
    simp only [Prod.mk.injEq] at h
    obtain ⟨rfl, rfl, rfl, rfl⟩ := h
    rfl
  | cons d rest ih =>
    cases result with
    | ok plugins =>
      obtain ⟨first, others, middle, ⟨_, _⟩, rfl, hfirst, hothers⟩ :=
        Loading.loadAll_cons_eq_ok.mp h
      exact Loading.loadAll_cons_eq_ok.mpr
        ⟨_, _, _, _, rfl, load_replaced hfirst, ih hothers⟩
    | error error =>
      rcases Loading.loadAll_cons_eq_error.mp h with hfirst | ⟨first, middle, ⟨_, _⟩, hfirst, hothers⟩
      · exact Loading.loadAll_cons_eq_error.mpr (.inl (load_replaced hfirst))
      · exact Loading.loadAll_cons_eq_error.mpr
          (.inr ⟨_, _, _, load_replaced hfirst, ih hothers⟩)

end Replacement

end TransformerEngine
