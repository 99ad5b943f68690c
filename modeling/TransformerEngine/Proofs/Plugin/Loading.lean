import Mathlib.Data.List.Basic
import Mathlib.Logic.Relation
import TransformerEngine.Plugin.Loading

/-!
# What loading comes to

Loading looks into two caches before it asks for a module. `runOn_load` and
`runOn_loadAll_cons` take a loading apart, and every change that it makes is one of three
steps (`LoadStep`, `reaches_loadAll`): a module is found and kept, a module is not found,
or an export passes the check and is kept. So what is true of the caches throughout is
shown for a step:

* they only grow (`ModuleCache.Extends`);
* an export in the cache is the one that its module offers, and can be called the way its
  kind asks for (`ModuleCache.Consistent`);
* a module in the cache was built by the builder of its specifier
  (`ModuleCache.BuiltBy`), and nothing but builders touches the world.

It follows that a descriptor comes to the same with caches as without: there is no builder
of its module, or the answer is what `selectExport` makes of some build of it
(`answers_load`).
-/

namespace TransformerEngine

variable {W σ : Type}

namespace Loading

/-! ### Runs -/

@[simp] theorem runOn_pure {α : Type} (a : α) (cache : ModuleCache W) (state : σ) :
    (pure a : Loading W σ α).runOn cache state = (.ok a, cache, state) := rfl

/-- The second part of a loading starts from what the first part left, if that succeeded. -/
theorem runOn_bind {α β : Type} (loading : Loading W σ α) (f : α → Loading W σ β)
    (cache : ModuleCache W) (state : σ) :
    (loading >>= f).runOn cache state =
      match loading.runOn cache state with
      | (.ok a, cache, state) => (f a).runOn cache state
      | (.error error, cache, state) => (.error error, cache, state) := by
  simp only [runOn, ExceptT.run_bind, StateT.run_bind]
  rcases (ExceptT.run loading).run (cache, state) with ⟨⟨⟩ | ⟨⟩, _, _⟩ <;> rfl

variable (resolve : Resolver W σ) (cache : ModuleCache W) (state : σ)

@[simp] theorem runOn_throw {α : Type} (error : PluginError) :
    (throw error : Loading W σ α).runOn cache state = (.error error, cache, state) := rfl

@[simp] theorem runOn_get :
    (get : Loading W σ (ModuleCache W × σ)).runOn cache state =
      (.ok (cache, state), cache, state) := rfl

@[simp] theorem runOn_set (after : ModuleCache W × σ) :
    (set after : Loading W σ PUnit).runOn cache state = (.ok ⟨⟩, after.1, after.2) := rfl

@[simp] theorem runOn_modify (f : ModuleCache W × σ → ModuleCache W × σ) :
    (modify f : Loading W σ PUnit).runOn cache state =
      (.ok ⟨⟩, (f (cache, state)).1, (f (cache, state)).2) := rfl

theorem runOn_loadModule (specifier : String) :
    (loadModule resolve specifier).runOn cache state =
      match cache.modules.find? specifier with
      | some module => (.ok module, cache, state)
      | none =>
        match resolve specifier state with
        | (some module, state) =>
          (.ok module, { cache with modules := cache.modules.insert specifier module }, state)
        | (none, state) => (.error (.transformLoad specifier), cache, state) := by
  rw [loadModule, runOn_bind, runOn_get]
  cases hm : cache.modules.find? specifier with
  | some module => simp [hm]
  | none =>
    rcases hr : resolve specifier state with ⟨_ | module, state'⟩
    · simp [hm, hr, runOn_bind]
    · simp [hm, hr]
      rfl

theorem runOn_load (d : PluginDescriptor) :
    (load resolve d).runOn cache state =
      match cache.exports.find? d.identity with
      | some value => (.ok ⟨d, value⟩, cache, state)
      | none =>
        match (loadModule resolve d.module).runOn cache state with
        | (.ok module, cache, state) =>
          match selectExport module d with
          | .ok value =>
            (.ok ⟨d, value⟩, { cache with exports := cache.exports.insert d.identity value },
              state)
          | .error error => (.error error, cache, state)
        | (.error error, cache, state) => (.error error, cache, state) := by
  rw [load, runOn_bind, runOn_get]
  cases he : cache.exports.find? d.identity with
  | some value => simp [he]
  | none =>
    simp only [he, runOn_bind]
    rcases (loadModule resolve d.module).runOn cache state with ⟨error | module, middle, after⟩
    · rfl
    · cases hs : selectExport module d with
      | error error => simp [hs, load.liftExcept]
      | ok value => simp [hs, load.liftExcept]

@[simp] theorem runOn_loadAll_nil :
    (loadAll resolve []).runOn cache state = (.ok [], cache, state) := rfl

theorem runOn_loadAll_cons (d : PluginDescriptor) (rest : List PluginDescriptor) :
    (loadAll resolve (d :: rest)).runOn cache state =
      match (load resolve d).runOn cache state with
      | (.ok first, cache, state) =>
        match (loadAll resolve rest).runOn cache state with
        | (.ok others, cache, state) => (.ok (first :: others), cache, state)
        | (.error error, cache, state) => (.error error, cache, state)
      | (.error error, cache, state) => (.error error, cache, state) := by
  rw [loadAll, runOn_bind]
  rcases (load resolve d).runOn cache state with ⟨error | first, middle, after⟩
  · rfl
  · simp only [runOn_bind, runOn_pure]
    rcases (loadAll resolve rest).runOn middle after with ⟨error | others, _, _⟩ <;> rfl

end Loading

/-! ### Steps -/

/-- A step of a loading. -/
inductive LoadStep (resolve : Resolver W σ) : ModuleCache W × σ → ModuleCache W × σ → Prop where
  /-- A module is found and kept. -/
  | found {cache state state'} {specifier : String} {module : TransformModule W}
      (hnew : cache.modules.find? specifier = none)
      (hmodule : resolve specifier state = (some module, state')) :
      LoadStep resolve (cache, state)
        ({ cache with modules := cache.modules.insert specifier module }, state')
  /-- A module is not found. -/
  | missing {cache state state'} {specifier : String}
      (hnew : cache.modules.find? specifier = none)
      (hmodule : resolve specifier state = (none, state')) :
      LoadStep resolve (cache, state) (cache, state')
  /-- An export passes the check and is kept. -/
  | selected {cache state} {d : PluginDescriptor} {module : TransformModule W}
      {value : TransformExport W} (hnew : cache.exports.find? d.identity = none)
      (hmodule : cache.modules.find? d.module = some module)
      (hvalue : selectExport module d = .ok value) :
      LoadStep resolve (cache, state)
        ({ cache with exports := cache.exports.insert d.identity value }, state)

/-- What loading leads to, step by step. -/
abbrev Reaches (resolve : Resolver W σ) : ModuleCache W × σ → ModuleCache W × σ → Prop :=
  Relation.ReflTransGen (LoadStep resolve)

namespace Loading

variable {resolve : Resolver W σ} {cache cache' : ModuleCache W} {state state' : σ}
variable {d : PluginDescriptor}

/-- A module that was loaded is in the cache. -/
theorem find?_of_loadModule {specifier : String} {module : TransformModule W}
    (h : (loadModule resolve specifier).runOn cache state = (.ok module, cache', state')) :
    cache'.modules.find? specifier = some module := by
  rw [runOn_loadModule] at h
  cases hm : cache.modules.find? specifier with
  | some kept =>
    simp only [hm, Prod.mk.injEq, Except.ok.injEq] at h
    obtain ⟨rfl, rfl, -⟩ := h
    exact hm
  | none =>
    rcases hr : resolve specifier state with ⟨_ | found, after⟩
    · simp [hm, hr] at h
    · simp only [hm, hr, Prod.mk.injEq, Except.ok.injEq] at h
      obtain ⟨rfl, rfl, -⟩ := h
      rw [Table.find?_insert, if_pos rfl]

/-- A module that cannot be loaded is neither kept nor found. -/
theorem error_of_loadModule {specifier : String} {error : PluginError}
    (h : (loadModule resolve specifier).runOn cache state = (.error error, cache', state')) :
    error = .transformLoad specifier ∧ cache' = cache ∧
      cache.modules.find? specifier = none ∧ resolve specifier state = (none, state') := by
  rw [runOn_loadModule] at h
  cases hm : cache.modules.find? specifier with
  | some kept => simp [hm] at h
  | none =>
    rcases hr : resolve specifier state with ⟨_ | found, after⟩
    · simp only [hm, hr, Prod.mk.injEq, Except.error.injEq] at h
      obtain ⟨rfl, rfl, rfl⟩ := h
      exact ⟨rfl, rfl, rfl, rfl⟩
    · simp [hm, hr] at h

theorem reaches_loadModule {specifier : String} {result : Except PluginError (TransformModule W)}
    (h : (loadModule resolve specifier).runOn cache state = (result, cache', state')) :
    Reaches resolve (cache, state) (cache', state') := by
  rw [runOn_loadModule] at h
  cases hm : cache.modules.find? specifier with
  | some kept =>
    simp only [hm, Prod.mk.injEq] at h
    obtain ⟨-, rfl, rfl⟩ := h
    exact .refl
  | none =>
    rcases hr : resolve specifier state with ⟨_ | found, after⟩
    · simp only [hm, hr, Prod.mk.injEq] at h
      obtain ⟨-, rfl, rfl⟩ := h
      exact .single (.missing hm hr)
    · simp only [hm, hr, Prod.mk.injEq] at h
      obtain ⟨-, rfl, rfl⟩ := h
      exact .single (.found hm hr)

/-- Loading a module keeps no export. -/
theorem exports_of_loadModule {specifier : String}
    {result : Except PluginError (TransformModule W)}
    (h : (loadModule resolve specifier).runOn cache state = (result, cache', state')) :
    cache'.exports = cache.exports := by
  rw [runOn_loadModule] at h
  cases hm : cache.modules.find? specifier with
  | some kept =>
    simp only [hm, Prod.mk.injEq] at h
    rw [← h.2.1]
  | none =>
    rcases hr : resolve specifier state with ⟨_ | found, after⟩
    · simp only [hm, hr, Prod.mk.injEq] at h
      rw [← h.2.1]
    · simp only [hm, hr, Prod.mk.injEq] at h
      rw [← h.2.1]

/-- What loading a descriptor can come to, and cache and state afterwards. -/
inductive Outcome (resolve : Resolver W σ) (d : PluginDescriptor) (cache : ModuleCache W)
    (state : σ) : Except PluginError (ResolvedTransform W) × ModuleCache W × σ → Prop where
  /-- The export was kept. -/
  | cached {value} (hvalue : cache.exports.find? d.identity = some value) :
      Outcome resolve d cache state (.ok ⟨d, value⟩, cache, state)
  /-- There is no such module. -/
  | missing {after} (hnew : cache.exports.find? d.identity = none)
      (hmodule : cache.modules.find? d.module = none)
      (hresolve : resolve d.module state = (none, after)) :
      Outcome resolve d cache state (.error (.transformLoad d.module), cache, after)
  /-- The module has no export that can be called that way. -/
  | refused {module middle after error} (hnew : cache.exports.find? d.identity = none)
      (hmodule : (loadModule resolve d.module).runOn cache state = (.ok module, middle, after))
      (herror : selectExport module d = .error error) :
      Outcome resolve d cache state (.error error, middle, after)
  /-- The module has such an export. -/
  | selected {module middle after value} (hnew : cache.exports.find? d.identity = none)
      (hmodule : (loadModule resolve d.module).runOn cache state = (.ok module, middle, after))
      (hvalue : selectExport module d = .ok value) :
      Outcome resolve d cache state
        (.ok ⟨d, value⟩, { middle with exports := middle.exports.insert d.identity value }, after)

theorem outcome_load (resolve : Resolver W σ) (d : PluginDescriptor) (cache : ModuleCache W)
    (state : σ) : Outcome resolve d cache state ((load resolve d).runOn cache state) := by
  rw [runOn_load]
  cases hexport : cache.exports.find? d.identity with
  | some value => exact .cached hexport
  | none =>
    rcases hmodule : (loadModule resolve d.module).runOn cache state with
      ⟨error | module, middle, after⟩
    · obtain ⟨rfl, rfl, hnew, hresolve⟩ := error_of_loadModule hmodule
      exact .missing hexport hnew hresolve
    · cases hselect : selectExport module d with
      | error error => simpa only [hselect] using .refused hexport hmodule hselect
      | ok value => simpa only [hselect] using .selected hexport hmodule hselect

theorem reaches_load {result : Except PluginError (ResolvedTransform W)}
    (h : (load resolve d).runOn cache state = (result, cache', state')) :
    Reaches resolve (cache, state) (cache', state') := by
  have houtcome := outcome_load resolve d cache state
  rw [h] at houtcome
  cases houtcome with
  | cached hvalue => exact .refl
  | missing hnew hmodule hresolve => exact .single (.missing hmodule hresolve)
  | refused hnew hmodule herror => exact reaches_loadModule hmodule
  | selected hnew hmodule hvalue =>
    -- the export is kept after its module
    refine (reaches_loadModule hmodule).tail (.selected ?_ (find?_of_loadModule hmodule) hvalue)
    rwa [exports_of_loadModule hmodule]

theorem reaches_loadAll {ds : List PluginDescriptor}
    {result : Except PluginError (List (ResolvedTransform W))}
    (h : (loadAll resolve ds).runOn cache state = (result, cache', state')) :
    Reaches resolve (cache, state) (cache', state') := by
  induction ds generalizing cache state result with
  | nil =>
    rw [runOn_loadAll_nil, Prod.mk.injEq, Prod.mk.injEq] at h
    obtain ⟨-, rfl, rfl⟩ := h
    exact .refl
  | cons d rest ih =>
    rw [runOn_loadAll_cons] at h
    rcases hfirst : (load resolve d).runOn cache state with ⟨error | first, middle, between⟩
    · simp only [hfirst, Prod.mk.injEq] at h
      obtain ⟨-, rfl, rfl⟩ := h
      exact reaches_load hfirst
    · refine (reaches_load hfirst).trans ?_
      rcases hothers : (loadAll resolve rest).runOn middle between with ⟨error | others, last, after⟩
      · simp only [hfirst, hothers, Prod.mk.injEq] at h
        obtain ⟨-, rfl, rfl⟩ := h
        exact ih hothers
      · simp only [hfirst, hothers, Prod.mk.injEq] at h
        obtain ⟨-, rfl, rfl⟩ := h
        exact ih hothers

/-! ### Answers -/

/-- A plugin that was loaded has its export in the cache. -/
theorem ok_of_load {t : ResolvedTransform W}
    (h : (load resolve d).runOn cache state = (.ok t, cache', state')) :
    t.descriptor = d ∧ cache'.exports.find? d.identity = some t.value := by
  have houtcome := outcome_load resolve d cache state
  rw [h] at houtcome
  cases houtcome with
  | cached hvalue => exact ⟨rfl, hvalue⟩
  | selected hnew hmodule hvalue => exact ⟨rfl, by rw [Table.find?_insert, if_pos rfl]⟩

/-- **Why a plugin cannot be loaded.** Its export was not kept, and either its module was
neither kept nor found, or the module that is kept now does not offer the export. -/
theorem error_of_load {error : PluginError}
    (h : (load resolve d).runOn cache state = (.error error, cache', state')) :
    cache'.exports.find? d.identity = none ∧
      ((cache'.modules.find? d.module = none ∧ (resolve d.module state).1 = none ∧
          error = .transformLoad d.module) ∨
        ∃ module, cache'.modules.find? d.module = some module ∧
          selectExport module d = .error error) := by
  have houtcome := outcome_load resolve d cache state
  rw [h] at houtcome
  cases houtcome with
  | missing hnew hmodule hresolve => exact ⟨hnew, .inl ⟨hmodule, by rw [hresolve], rfl⟩⟩
  | refused hnew hmodule herror =>
    exact ⟨by rwa [exports_of_loadModule hmodule],
      .inr ⟨_, find?_of_loadModule hmodule, herror⟩⟩

/-- Loading descriptors succeeds if and only if loading the first one does and, after it,
loading the others. -/
theorem loadAll_cons_eq_ok {rest : List PluginDescriptor} {resolved : List (ResolvedTransform W)} :
    (loadAll resolve (d :: rest)).runOn cache state = (.ok resolved, cache', state') ↔
      ∃ first others middle between, resolved = first :: others ∧
        (load resolve d).runOn cache state = (.ok first, middle, between) ∧
        (loadAll resolve rest).runOn middle between = (.ok others, cache', state') := by
  rw [runOn_loadAll_cons]
  constructor
  · intro h
    rcases hfirst : (load resolve d).runOn cache state with ⟨error | first, middle, between⟩
    · simp [hfirst] at h
    · rcases hothers : (loadAll resolve rest).runOn middle between with ⟨error | others, last, after⟩
      · simp [hfirst, hothers] at h
      · simp only [hfirst, hothers, Prod.mk.injEq, Except.ok.injEq] at h
        obtain ⟨rfl, rfl, rfl⟩ := h
        exact ⟨first, others, middle, between, rfl, rfl, hothers⟩
  · rintro ⟨first, others, middle, between, rfl, hfirst, hothers⟩
    simp only [hfirst, hothers]

/-- If descriptors were loaded, each of them was, after those before it. -/
theorem ok_of_loadAll_append {before after : List PluginDescriptor}
    {resolved : List (ResolvedTransform W)}
    (h : (loadAll resolve (before ++ d :: after)).runOn cache state = (.ok resolved, cache', state')) :
    ∃ loaded t middle between, (loadAll resolve before).runOn cache state =
        (.ok loaded, middle, between) ∧
      ((load resolve d).runOn middle between).1 = .ok t := by
  induction before generalizing cache state resolved with
  | nil =>
    obtain ⟨first, _, _, _, -, hfirst, -⟩ := loadAll_cons_eq_ok.mp h
    exact ⟨[], first, cache, state, rfl, congrArg Prod.fst hfirst⟩
  | cons d' before ih =>
    obtain ⟨first, others, _, _, rfl, hfirst, hothers⟩ := loadAll_cons_eq_ok.mp h
    obtain ⟨loaded, t, middle, between, hbefore, ht⟩ := ih hothers
    exact ⟨first :: loaded, t, middle, between,
      loadAll_cons_eq_ok.mpr ⟨first, loaded, _, _, rfl, hfirst, hbefore⟩, ht⟩

/-- Loading descriptors fails if and only if loading the first one does or, after it,
loading the others. -/
theorem loadAll_cons_eq_error {rest : List PluginDescriptor} {error : PluginError} :
    (loadAll resolve (d :: rest)).runOn cache state = (.error error, cache', state') ↔
      (load resolve d).runOn cache state = (.error error, cache', state') ∨
      ∃ first middle between, (load resolve d).runOn cache state = (.ok first, middle, between) ∧
        (loadAll resolve rest).runOn middle between = (.error error, cache', state') := by
  rw [runOn_loadAll_cons]
  constructor
  · intro h
    rcases hfirst : (load resolve d).runOn cache state with ⟨error | first, middle, between⟩
    · simp only [hfirst, Prod.mk.injEq, Except.error.injEq] at h
      obtain ⟨rfl, rfl, rfl⟩ := h
      exact .inl rfl
    · rcases hothers : (loadAll resolve rest).runOn middle between with ⟨error | others, last, after⟩
      · simp only [hfirst, hothers] at h
        exact .inr ⟨first, middle, between, rfl, hothers.trans h⟩
      · simp [hfirst, hothers] at h
  · rintro (hfirst | ⟨first, middle, between, hfirst, hothers⟩)
    · simp only [hfirst]
    · simp only [hfirst, hothers]

/-- **The first failure.** Loading descriptors fails if and only if there is one among
them that cannot be loaded after those before it were, and the failure is its. -/
theorem loadAll_eq_error {ds : List PluginDescriptor} {error : PluginError} :
    (loadAll resolve ds).runOn cache state = (.error error, cache', state') ↔
      ∃ before d after loaded middle between, ds = before ++ d :: after ∧
        (loadAll resolve before).runOn cache state = (.ok loaded, middle, between) ∧
        (load resolve d).runOn middle between = (.error error, cache', state') := by
  induction ds generalizing cache state with
  | nil => simp
  | cons d rest ih =>
    rw [loadAll_cons_eq_error]
    constructor
    · rintro (hfirst | ⟨first, middle, between, hfirst, hothers⟩)
      · exact ⟨[], d, rest, [], cache, state, rfl, rfl, hfirst⟩
      · obtain ⟨before, d', after, loaded, middle', between', rfl, hbefore, hfails⟩ :=
          ih.mp hothers
        exact ⟨d :: before, d', after, first :: loaded, middle', between', rfl,
          loadAll_cons_eq_ok.mpr ⟨first, loaded, middle, between, rfl, hfirst, hbefore⟩, hfails⟩
    · rintro ⟨before, d', after, loaded, middle, between, heq, hbefore, hfails⟩
      cases before with
      | nil =>
        obtain ⟨rfl, rfl⟩ := List.cons.inj heq
        simp only [runOn_loadAll_nil, Prod.mk.injEq] at hbefore
        obtain ⟨-, rfl, rfl⟩ := hbefore
        exact .inl hfails
      | cons d'' before =>
        obtain ⟨rfl, rfl⟩ := List.cons.inj heq
        obtain ⟨first, others, middle', between', -, hfirst, hothers⟩ :=
          loadAll_cons_eq_ok.mp hbefore
        exact .inr ⟨first, middle', between', hfirst,
          ih.mpr ⟨before, d', after, others, middle, between, rfl, hothers, hfails⟩⟩

end Loading

/-! ### Caches only grow -/

/-- What is in the cache `before` is still there in `after`. -/
structure ModuleCache.Extends (before after : ModuleCache W) : Prop where
  modules : ∀ specifier module, before.modules.find? specifier = some module →
    after.modules.find? specifier = some module
  exports : ∀ identity value, before.exports.find? identity = some value →
    after.exports.find? identity = some value

/-- A write under a new key takes nothing away. -/
theorem Table.find?_insert_of_new {κ ν : Type} [DecidableEq κ] {table : Table κ ν} {key key' : κ}
    {value value' : ν} (hnew : table.find? key = none) (h : table.find? key' = some value') :
    (table.insert key value).find? key' = some value' := by
  rw [Table.find?_insert, if_neg]
  · exact h
  · rintro rfl
    exact nomatch hnew.symm.trans h

section Steps

variable {resolve : Resolver W σ} {start now : ModuleCache W × σ}

theorem ModuleCache.Extends.refl (cache : ModuleCache W) : cache.Extends cache :=
  ⟨fun _ _ h => h, fun _ _ h => h⟩

theorem ModuleCache.Extends.trans {a b c : ModuleCache W} (first : a.Extends b)
    (last : b.Extends c) : a.Extends c :=
  ⟨fun _ _ h => last.modules _ _ (first.modules _ _ h),
    fun _ _ h => last.exports _ _ (first.exports _ _ h)⟩

theorem LoadStep.extends (h : LoadStep resolve start now) : start.1.Extends now.1 := by
  cases h with
  | found hnew hmodule => exact ⟨fun _ _ h => Table.find?_insert_of_new hnew h, fun _ _ h => h⟩
  | missing hnew hmodule => exact .refl _
  | selected hnew hmodule hvalue =>
    exact ⟨fun _ _ h => h, fun _ _ h => Table.find?_insert_of_new hnew h⟩

/-- **Caches only grow.** -/
theorem Reaches.extends (h : Reaches resolve start now) : start.1.Extends now.1 := by
  induction h with
  | refl => exact .refl _
  | tail _ step ih => exact ih.trans step.extends

/-- Plugins that were loaded, in the order of their descriptors, have their exports in the
cache. -/
theorem Loading.ok_of_loadAll {ds : List PluginDescriptor}
    {resolved : List (ResolvedTransform W)} {cache cache' : ModuleCache W} {state state' : σ}
    (h : (loadAll resolve ds).runOn cache state = (.ok resolved, cache', state')) :
    resolved.map ResolvedTransform.descriptor = ds ∧
      ∀ t ∈ resolved, cache'.exports.find? t.identity = some t.value := by
  induction ds generalizing cache state resolved with
  | nil =>
    rw [runOn_loadAll_nil, Prod.mk.injEq, Except.ok.injEq] at h
    rw [← h.1]
    exact ⟨rfl, fun _ ht => absurd ht List.not_mem_nil⟩
  | cons d rest ih =>
    obtain ⟨first, others, middle, between, rfl, hfirst, hothers⟩ := loadAll_cons_eq_ok.mp h
    obtain ⟨rfl, hexport⟩ := ok_of_load hfirst
    obtain ⟨hds, hexports⟩ := ih hothers
    refine ⟨by rw [List.map_cons, hds], List.forall_mem_cons.mpr ⟨?_, hexports⟩⟩
    -- the others took nothing away
    exact (reaches_loadAll hothers).extends.exports _ _ hexport

/-! ### What caches hold -/

theorem selectExport_eq_ok {module : TransformModule W} {d : PluginDescriptor}
    {value : TransformExport W} :
    selectExport module d = .ok value ↔
      module.resolve d.importName = some value ∧ value.supports d.kind = true := by
  unfold selectExport
  cases hr : module.resolve d.importName with
  | none => simp
  | some offered =>
    by_cases hs : offered.supports d.kind = true
    · simp only [hs, if_true, Except.ok.injEq, Option.some.injEq]
      exact ⟨fun h => ⟨h, h ▸ hs⟩, And.left⟩
    · simp only [hs, Bool.false_eq_true, if_false, Option.some.injEq, reduceCtorEq, false_iff]
      rintro ⟨rfl, hsupports⟩
      exact hs hsupports

/-- Every export in the cache is what the module of its identity, which is in the cache as
well, offers under its name, and it can be called the way its kind asks for. -/
def ModuleCache.Consistent (cache : ModuleCache W) : Prop :=
  ∀ identity value, cache.exports.find? identity = some value →
    ∃ module, cache.modules.find? identity.module = some module ∧
      module.resolve identity.importName = some value ∧ value.supports identity.kind = true

theorem ModuleCache.consistent_empty : ({} : ModuleCache W).Consistent :=
  fun _ _ h => nomatch h

theorem LoadStep.consistent (h : LoadStep resolve start now) (hc : start.1.Consistent) :
    now.1.Consistent := by
  have hgrows := h.extends
  intro identity value hvalue
  -- an export that was there is still what the module offers
  have hold : start.1.exports.find? identity = some value → ∃ module,
      now.1.modules.find? identity.module = some module ∧
        module.resolve identity.importName = some value ∧
        value.supports identity.kind = true := fun hbefore =>
    (hc identity value hbefore).imp fun module h => ⟨hgrows.modules _ _ h.1, h.2⟩
  cases h with
  | found hnew hmodule => exact hold hvalue
  | missing hnew hmodule => exact hold hvalue
  | @selected cache state d module selected hnew hmodule hselect =>
    rw [Table.find?_insert] at hvalue
    by_cases hid : d.identity = identity
    · subst hid
      rw [if_pos rfl] at hvalue
      obtain rfl := Option.some.inj hvalue
      exact ⟨module, hmodule, selectExport_eq_ok.mp hselect⟩
    · rw [if_neg hid] at hvalue
      exact hold hvalue

/-- **Caches stay consistent.** -/
theorem Reaches.consistent (h : Reaches resolve start now) (hc : start.1.Consistent) :
    now.1.Consistent := by
  induction h with
  | refl => exact hc
  | tail _ step ih => exact step.consistent ih

end Steps

/-! ### Where modules come from -/

/-- Every module in the cache was built, in some world, by the builder of its specifier. -/
def ModuleCache.BuiltBy (builders : Table String (ModuleBuilder W)) (cache : ModuleCache W) :
    Prop :=
  ∀ specifier module, cache.modules.find? specifier = some module →
    ∃ builder world, builders.find? specifier = some builder ∧ (builder world).1 = module

/-- A builder takes the world from `world` to `world'`. -/
def Builds (builders : Table String (ModuleBuilder W)) (world world' : W) : Prop :=
  ∃ specifier builder, builders.find? specifier = some builder ∧ (builder world).2 = world'

section Registry

variable {builders : Table String (ModuleBuilder W)}
variable {start now : ModuleCache W × ModuleRegistry W × W}

theorem ModuleCache.builtBy_empty : ({} : ModuleCache W).BuiltBy builders :=
  fun _ _ h => nomatch h

theorem ModuleRegistry.resolve_eq_some {specifier : String} {registry : ModuleRegistry W}
    {world : W} {module : TransformModule W} {after : ModuleRegistry W × W} :
    ModuleRegistry.resolve specifier (registry, world) = (some module, after) ↔
      ∃ builder, registry.builders.find? specifier = some builder ∧ (builder world).1 = module ∧
        ({ registry with evaluations := registry.evaluations + 1 }, (builder world).2) = after := by
  rw [ModuleRegistry.resolve]
  cases registry.builders.find? specifier with
  | none => simp
  | some builder => simp

theorem ModuleRegistry.resolve_eq_none {specifier : String} {registry : ModuleRegistry W}
    {world : W} {after : ModuleRegistry W × W} :
    ModuleRegistry.resolve specifier (registry, world) = (none, after) ↔
      registry.builders.find? specifier = none ∧ (registry, world) = after := by
  rw [ModuleRegistry.resolve]
  cases registry.builders.find? specifier with
  | none => simp
  | some builder => simp

/-- The modules that there are stay, and nothing but a builder touches the world. -/
theorem LoadStep.builds (h : LoadStep ModuleRegistry.resolve start now)
    (hstart : start.2.1.builders = builders) :
    now.2.1.builders = builders ∧ Relation.ReflGen (Builds builders) start.2.2 now.2.2 := by
  cases h with
  | found hnew hmodule =>
    obtain ⟨builder, hb, -, rfl⟩ := ModuleRegistry.resolve_eq_some.mp hmodule
    exact ⟨hstart, .single ⟨_, builder, hstart ▸ hb, rfl⟩⟩
  | missing hnew hmodule =>
    obtain ⟨-, rfl⟩ := ModuleRegistry.resolve_eq_none.mp hmodule
    exact ⟨hstart, .refl⟩
  | selected hnew hmodule hvalue => exact ⟨hstart, .refl⟩

/-- **Only builders touch the world.** -/
theorem Reaches.builds (h : Reaches ModuleRegistry.resolve start now)
    (hstart : start.2.1.builders = builders) :
    now.2.1.builders = builders ∧
      Relation.ReflTransGen (Builds builders) start.2.2 now.2.2 := by
  induction h with
  | refl => exact ⟨hstart, .refl⟩
  | tail _ step ih =>
    obtain ⟨hsame, hworld⟩ := step.builds ih.1
    exact ⟨hsame, ih.2.trans hworld.to_reflTransGen⟩

theorem LoadStep.builtBy (h : LoadStep ModuleRegistry.resolve start now)
    (hstart : start.2.1.builders = builders) (hc : start.1.BuiltBy builders) :
    now.1.BuiltBy builders := by
  cases h with
  | @found cache state _ specifier _ hnew hmodule =>
    obtain ⟨builder, hb, rfl, -⟩ := ModuleRegistry.resolve_eq_some.mp hmodule
    intro specifier' module' h
    rw [Table.find?_insert] at h
    by_cases hs : specifier = specifier'
    · subst hs
      rw [if_pos rfl] at h
      exact ⟨builder, state.2, hstart ▸ hb, Option.some.inj h⟩
    · rw [if_neg hs] at h
      exact hc specifier' module' h
  | missing hnew hmodule => exact hc
  | selected hnew hmodule hvalue => exact hc

/-- **What is kept was built.** -/
theorem Reaches.builtBy (h : Reaches ModuleRegistry.resolve start now)
    (hstart : start.2.1.builders = builders) (hc : start.1.BuiltBy builders) :
    now.1.BuiltBy builders := by
  induction h with
  | refl => exact hc
  | tail before step ih => exact step.builtBy (Reaches.builds before hstart).1 ih

/-! ### Loading without caches -/

/-- The answer to `d` if nothing was kept: there is no builder of its module, or some build
of it decides. -/
inductive Answers (builders : Table String (ModuleBuilder W)) (d : PluginDescriptor) :
    Except PluginError (ResolvedTransform W) → Prop where
  | missing (h : builders.find? d.module = none) :
      Answers builders d (.error (.transformLoad d.module))
  | built {builder} (h : builders.find? d.module = some builder) (world : W) :
      Answers builders d ((selectExport (builder world).1 d).map fun value => ⟨d, value⟩)

/-- **The caches do not show.** Whatever was kept, a descriptor comes to what it would come
to if nothing was. -/
theorem answers_load {cache cache' : ModuleCache W} {registry registry' : ModuleRegistry W}
    {world world' : W} {d : PluginDescriptor} {result : Except PluginError (ResolvedTransform W)}
    (hconsistent : cache.Consistent) (hbuilt : cache.BuiltBy registry.builders)
    (h : (Loading.load ModuleRegistry.resolve d).runOn cache (registry, world) =
      (result, cache', registry', world')) :
    Answers registry.builders d result := by
  have hafter : cache'.BuiltBy registry.builders :=
    (Loading.reaches_load h).builtBy rfl hbuilt
  cases result with
  | ok t =>
    obtain ⟨rfl, hexport⟩ := Loading.ok_of_load h
    obtain ⟨module, hmodule, hselect⟩ :=
      (Loading.reaches_load h).consistent hconsistent _ _ hexport
    obtain ⟨builder, build, hb, rfl⟩ := hafter _ _ hmodule
    have hanswer := Answers.built hb build
    rwa [selectExport_eq_ok.mpr hselect] at hanswer
  | error error =>
    obtain ⟨-, ⟨-, hresolve, rfl⟩ | ⟨module, hmodule, hselect⟩⟩ := Loading.error_of_load h
    · have hnone : ModuleRegistry.resolve d.module (registry, world) =
          (none, (ModuleRegistry.resolve d.module (registry, world)).2) := Prod.ext hresolve rfl
      exact .missing (ModuleRegistry.resolve_eq_none.mp hnone).1
    · obtain ⟨builder, build, hb, rfl⟩ := hafter _ _ hmodule
      have hanswer := Answers.built hb build
      rwa [hselect] at hanswer

end Registry

end TransformerEngine
