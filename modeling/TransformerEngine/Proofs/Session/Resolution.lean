import TransformerEngine.Proofs.Plugin.Entry
import TransformerEngine.Proofs.Plugin.Replacement
import TransformerEngine.Proofs.Session.Loads

/-!
# Plugins that cannot be found

Each of the three things that a session does begins by finding the plugins of its options.
`Session.Fault` says what may be wrong with them: there is a first entry that cannot be
read, or all can be read and there is a first descriptor that cannot be loaded. Finding
the plugins fails for just these reasons (`resolvePlugins_fails_iff`).

Since finding plugins only loads, transpiling, creating a program and emitting then come to
the same error, and all three leave session and workspace as loading did
(`unresolvable_has_no_effect`). Nothing was called on the way: with any other exports in
the place of those that there are, the same would have happened.
-/

namespace TransformerEngine

variable {W : Type}

/-- The session with everything that it has loaded replaced. -/
def Replacement.onSession (φ : Replacement W) (session : Session W) : Session W :=
  { session with cache := φ.onCache session.cache }

/-- The workspace with all modules replaced. -/
def Replacement.onWorkspace (φ : Replacement W) (workspace : Workspace W) : Workspace W :=
  { workspace with registry := φ.onRegistry workspace.registry }

namespace Session

variable {session session' : Session W} {workspace workspace' : Workspace W}

/-! ### What may be wrong -/

/-- Plugins cannot be loaded if and only if there is one among them that cannot be loaded
after those before it were. -/
theorem loadPlugins_eq_error {ds : List PluginDescriptor} {error : PluginError} :
    loadPlugins ds session workspace = (.error error, session', workspace') ↔
      ∃ before d after loaded mid midway, ds = before ++ d :: after ∧
        loadPlugins before session workspace = (.ok loaded, mid, midway) ∧
        loadPlugin d mid midway = (.error error, session', workspace') := by
  constructor
  · intro h
    obtain ⟨hrun, hsession, hworkspace⟩ := load_eq_iff.mp h
    obtain ⟨before, d, after, loaded, cache, ⟨registry, world⟩, rfl, hbefore, hd⟩ :=
      Loading.loadAll_eq_error.mp hrun
    exact ⟨before, d, after, loaded, { session with cache }, { workspace with registry, world },
      rfl, load_eq_iff.mpr ⟨hbefore, rfl, rfl⟩, load_eq_iff.mpr ⟨hd, hsession, hworkspace⟩⟩
  · rintro ⟨before, d, after, loaded, mid, midway, rfl, hbefore, hd⟩
    obtain ⟨hrun, hmid, hmidway⟩ := load_eq_iff.mp hbefore
    obtain ⟨hlast, hsession, hworkspace⟩ := load_eq_iff.mp hd
    refine load_eq_iff.mpr ⟨Loading.loadAll_eq_error.mpr
      ⟨before, d, after, loaded, _, _, rfl, hrun, hlast⟩, ?_, ?_⟩
    · rw [hsession, hmid]
    · rw [hworkspace, hmidway]

/-- Some entry of the options cannot be read. -/
def Malformed (session : Session W) (options : CompilerOptions) : Prop :=
  ∃ entry ∈ options.plugins, ∃ reason,
    PluginEntry.descriptors session.baseDirectory entry = .error reason

/-- All entries of the options can be read, and some descriptor cannot be loaded when those
before it have been tried. -/
def Unloadable (session : Session W) (workspace : Workspace W) (options : CompilerOptions) :
    Prop :=
  ∃ before d after,
    PluginDescriptor.ofEntries options.plugins session.baseDirectory =
      .ok (before ++ d :: after) ∧
    ∃ error, (loadPlugin d (loadPlugins before session workspace).2.1
      (loadPlugins before session workspace).2.2).1 = .error error

/-- What is wrong with the plugins of the options, first of all. -/
inductive Fault (session : Session W) (workspace : Workspace W) (options : CompilerOptions) :
    PluginError → Prop where
  /-- The entry cannot be read, and all before it can. -/
  | malformed {before entry after reason} (hplugins : options.plugins = before ++ entry :: after)
      (hbefore : ∀ e ∈ before, ∃ own,
        PluginEntry.descriptors session.baseDirectory e = .ok own)
      (hentry : PluginEntry.descriptors session.baseDirectory entry = .error reason) :
      Fault session workspace options (.malformedEntry before.length reason)
  /-- All entries can be read, the descriptor cannot be loaded, and all before it were. -/
  | unloadable {before d after loaded mid midway final later error}
      (hread : PluginDescriptor.ofEntries options.plugins session.baseDirectory =
        .ok (before ++ d :: after))
      (hbefore : loadPlugins before session workspace = (.ok loaded, mid, midway))
      (hd : loadPlugin d mid midway = (.error error, final, later)) :
      Fault session workspace options error

/-- **Finding plugins fails for the first fault.** -/
theorem resolvePlugins_fails_iff {options : CompilerOptions} {error : PluginError} :
    (resolvePlugins options session workspace).1 = .error error ↔
      session.Fault workspace options error := by
  cases hread : PluginDescriptor.ofEntries options.plugins session.baseDirectory with
  | error error' =>
    rw [resolvePlugins_of_error hread]
    obtain ⟨before, entry, after, reason, hplugins, hbefore, hentry, rfl⟩ :=
      ofEntries_eq_error.mp hread
    constructor
    · intro h
      rw [← Except.error.inj h]
      exact .malformed hplugins hbefore hentry
    · rintro (⟨hplugins', hbefore', hentry'⟩ | ⟨hread', -, -⟩)
      · have h := ofEntries_eq_error.mpr ⟨_, _, _, _, hplugins', hbefore', hentry', rfl⟩
        exact congrArg Except.error (Except.error.inj (hread.symm.trans h))
      · exact nomatch hread.symm.trans hread'
  | ok ds =>
    rw [resolvePlugins_of_ok hread]
    constructor
    · intro h
      obtain ⟨before, d, after, loaded, mid, midway, rfl, hbefore, hd⟩ :=
        loadPlugins_eq_error.mp (Prod.ext h rfl)
      exact .unloadable hread hbefore hd
    · rintro (⟨hplugins', hbefore', hentry'⟩ | ⟨hread', hbefore, hd⟩)
      · have h := ofEntries_eq_error.mpr ⟨_, _, _, _, hplugins', hbefore', hentry', rfl⟩
        exact nomatch hread.symm.trans h
      · obtain rfl := Except.ok.inj (hread.symm.trans hread')
        exact congrArg Prod.fst
          (loadPlugins_eq_error.mpr ⟨_, _, _, _, _, _, rfl, hbefore, hd⟩)

/-- Wherever an entry cannot be read or a descriptor cannot be loaded, there is a first
fault. -/
theorem exists_fault {options : CompilerOptions}
    (h : session.Malformed options ∨ session.Unloadable workspace options) :
    ∃ error, session.Fault workspace options error := by
  cases hresult : (resolvePlugins options session workspace).1 with
  | error error => exact ⟨error, resolvePlugins_fails_iff.mp hresult⟩
  | ok resolved =>
    exfalso
    rcases h with ⟨entry, hentry, reason, hreason⟩ | ⟨before, d, after, hread, error, herror⟩
    · obtain ⟨error, hread⟩ := exists_error_of_malformed hentry hreason
      rw [resolvePlugins_of_error hread] at hresult
      exact nomatch hresult
    · -- had all been loaded, so would have been this one
      rw [resolvePlugins_of_ok hread] at hresult
      have hall : loadPlugins (before ++ d :: after) session workspace = (.ok resolved, _, _) :=
        Prod.ext hresult rfl
      obtain ⟨loaded, t, cache, ⟨registry, world⟩, hbefore, ht⟩ :=
        Loading.ok_of_loadAll_append (load_eq_iff.mp hall).1
      have hmid : loadPlugins before session workspace =
          (.ok loaded, { session with cache }, { workspace with registry, world }) :=
        load_eq_iff.mpr ⟨hbefore, rfl, rfl⟩
      rw [hmid] at herror
      have hfails : loadPlugin d { session with cache } { workspace with registry, world } =
          (.error error, _, _) := Prod.ext herror rfl
      exact nomatch (congrArg Prod.fst (load_eq_iff.mp hfails).1).symm.trans ht

/-! ### Nothing else happens -/

/-- Whatever the exports do, finding plugins comes to the same. -/
theorem resolvePlugins_replaced {options : CompilerOptions} (φ : Replacement W)
    {result : Except PluginError (List (ResolvedTransform W))}
    (h : resolvePlugins options session workspace = (result, session', workspace')) :
    resolvePlugins options (φ.onSession session) (φ.onWorkspace workspace) =
      (result.map (List.map φ.onPlugin), φ.onSession session', φ.onWorkspace workspace') := by
  cases hread : PluginDescriptor.ofEntries options.plugins session.baseDirectory with
  | error error =>
    rw [resolvePlugins_of_error hread, Prod.mk.injEq, Prod.mk.injEq] at h
    obtain ⟨rfl, rfl, rfl⟩ := h
    exact resolvePlugins_of_error hread
  | ok ds =>
    rw [resolvePlugins_of_ok hread] at h
    obtain ⟨hrun, hsession, hworkspace⟩ := load_eq_iff.mp h
    -- a replacement leaves the base directory, and so the descriptors, as they are
    have hread' : PluginDescriptor.ofEntries options.plugins (φ.onSession session).baseDirectory =
        .ok ds := hread
    rw [resolvePlugins_of_ok hread']
    refine load_eq_iff.mpr ⟨Replacement.loadAll_replaced hrun, ?_, ?_⟩
    · rw [hsession]
      rfl
    · rw [hworkspace]
      rfl

/-- Whatever a session is asked to do with the options, it comes to the error, and session
and workspace are `session'` and `workspace'` afterwards: this holds for every request,
host, program, writer and group of the caller's transformers. -/
structure Refuses (session : Session W) (workspace : Workspace W) (options : CompilerOptions)
    (error : PluginError) (session' : Session W) (workspace' : Workspace W) : Prop where
  transpile : ∀ request : TranspileRequest W, request.options = options →
    transpile request session workspace = (.error error, session', workspace')
  createProgram : ∀ live roots host,
    createProgram live roots options host session workspace = (.error error, session', workspace')
  emit : ∀ program target caller write, program.options = options →
    emit program target caller write session workspace = (.error error, session', workspace')

theorem refuses_of_resolvePlugins {options : CompilerOptions} {error : PluginError}
    (h : resolvePlugins options session workspace = (.error error, session', workspace')) :
    session.Refuses workspace options error session' workspace' where
  transpile := by
    rintro request rfl
    rw [Session.transpile, h]
  createProgram live roots host := by rw [Session.createProgram, h]
  emit := by
    rintro program target caller write rfl
    rw [Session.emit, h]

/-! A session whose world counts what is called. -/

namespace Sample

/-- Writes notes beside the program's own roots, and reports that it did. -/
def annotate : ProgramTransform Nat := fun invocation =>
  .readWorld fun calls => .writeWorld (calls + 1) <|
    .addFile "notes.ts" "export {};" <| .report (.error 1 "annotated") <|
      .deriveOrFail (invocation.input.rootNames ++ ["notes.ts"])

/-- A registry in which `annotate` can be found, built anew each time it is asked for. -/
def registry : ModuleRegistry Nat :=
  ({} : ModuleRegistry Nat).registerLazy "annotate" fun calls =>
    ({ main := some (.program annotate) }, calls + 1)

def opening : Workspace Nat := { registry, world := 0 }

def host : CompilerHost := ({ currentDirectory := "/" } : MemoryHost).toHost

/-- Configures a transform of whole programs. -/
def annotateEntry : Json := .object [("transform", .string "annotate"), ("type", .string "program")]

/-- Configures a module that there is not. -/
def absentEntry : Json := .object [("transform", .string "absent")]

/-- Names no module. -/
def malformedEntry : Json := .object [("transform", .int 1)]

/-- What `annotateEntry` configures. -/
def annotateDescriptor : PluginDescriptor :=
  { module := "annotate", kind := .program, beforeEmit := true, config := annotateEntry }

/-- What `absentEntry` configures. -/
def absentDescriptor : PluginDescriptor := { module := "absent", config := absentEntry }

def unloadableOptions : CompilerOptions := { plugins := [annotateEntry, absentEntry] }

def malformedOptions : CompilerOptions :=
  { plugins := [annotateEntry, absentEntry, malformedEntry] }

theorem unloadable : Session.Unloadable {} opening unloadableOptions :=
  ⟨[annotateDescriptor], absentDescriptor, [], by rfl, .transformLoad "absent", by rfl⟩

theorem malformed : Session.Malformed ({} : Session Nat) malformedOptions :=
  ⟨malformedEntry, by simp [malformedOptions], _, by rfl⟩

end Sample

/-- **Nothing happens before the plugins are found.** If some entry of the options cannot be
read or some descriptor cannot be loaded, wherever it stands and whatever its kind, then
transpiling, creating a program and emitting with these options all come to the error of
the first fault and leave session and workspace the same. No program was made, entered or
forgotten; the caches have only grown; nothing touched the world but builders of modules;
and with any other exports in the place of those that there are, the same would have
happened. If an entry cannot be read, nothing was changed at all. -/
theorem unresolvable_has_no_effect {options : CompilerOptions}
    (h : session.Malformed options ∨ session.Unloadable workspace options) :
    ∃ error session' workspace', session.Fault workspace options error ∧
      session.Refuses workspace options error session' workspace' ∧
      (∀ φ : Replacement W, (φ.onSession session).Refuses (φ.onWorkspace workspace) options error
        (φ.onSession session') (φ.onWorkspace workspace')) ∧
      session'.lineage = session.lineage ∧ session'.baseDirectory = session.baseDirectory ∧
      workspace'.nextId = workspace.nextId ∧
      workspace'.registry.builders = workspace.registry.builders ∧
      Relation.ReflTransGen (Builds workspace.registry.builders) workspace.world
        workspace'.world ∧
      session.cache.Extends session'.cache ∧
      (session.Malformed options → session' = session ∧ workspace' = workspace) := by
  obtain ⟨error, hfault⟩ := exists_fault h
  obtain ⟨session', workspace', hresolve⟩ : ∃ session' workspace',
      resolvePlugins options session workspace = (.error error, session', workspace') :=
    ⟨_, _, Prod.ext (resolvePlugins_fails_iff.mpr hfault) rfl⟩
  have hloads := resolvePlugins_loads hresolve
  have hbuilds := hloads.reaches.builds rfl
  refine ⟨error, session', workspace', hfault, refuses_of_resolvePlugins hresolve,
    fun φ => refuses_of_resolvePlugins (resolvePlugins_replaced φ hresolve), hloads.lineage,
    hloads.baseDirectory, hloads.nextId, hbuilds.1, hbuilds.2, hloads.reaches.extends, ?_⟩
  rintro ⟨entry, hentry, reason, hreason⟩
  -- what cannot be read is noticed before anything is loaded
  obtain ⟨error', hread⟩ := exists_error_of_malformed hentry hreason
  rw [resolvePlugins_of_error hread, Prod.mk.injEq, Prod.mk.injEq] at hresolve
  exact ⟨hresolve.2.1.symm, hresolve.2.2.symm⟩

/-- A module that there is not is noticed behind one that is built for nothing; and an entry
that cannot be read, behind both, before anything is built. -/
theorem unresolvable_has_no_effect_sample :
    (∃ session' workspace',
      Session.Refuses {} Sample.opening Sample.unloadableOptions (.transformLoad "absent")
        session' workspace' ∧
      session'.lineage = Lineage.empty ∧ workspace'.world = 1 ∧
      (session'.cache.exports.find? Sample.annotateDescriptor.identity).isSome) ∧
    Session.Refuses {} Sample.opening Sample.malformedOptions
      (.malformedEntry 2 "`transform` must be a module path string") {} Sample.opening := by
  constructor
  · obtain ⟨error, session', workspace', -, hrefuses, -, hlineage, -⟩ :=
      unresolvable_has_no_effect (.inr Sample.unloadable)
    have hrun := hrefuses.createProgram (fun _ => true) [] Sample.host
    have herror : error = .transformLoad "absent" := (Except.error.inj (congrArg Prod.fst hrun)).symm
    have hworld : workspace'.world = 1 := by rw [← congrArg (·.2.2.world) hrun]; rfl
    have hkept : (session'.cache.exports.find? Sample.annotateDescriptor.identity).isSome := by
      rw [← congrArg (·.2.1.cache) hrun]
      rfl
    exact ⟨session', workspace', herror ▸ hrefuses, hlineage, hworld, hkept⟩
  · have hbad : Session.Malformed {} Sample.malformedOptions ∨
        Session.Unloadable {} Sample.opening Sample.malformedOptions := .inl Sample.malformed
    obtain ⟨error, session', workspace', -, hrefuses, -, -, -, -, -, -, -, hsame⟩ :=
      unresolvable_has_no_effect hbad
    obtain ⟨rfl, rfl⟩ := hsame Sample.malformed
    have hrun := hrefuses.createProgram (fun _ => true) [] Sample.host
    have herror : error = .malformedEntry 2 "`transform` must be a module path string" :=
      (Except.error.inj (congrArg Prod.fst hrun)).symm
    exact herror ▸ hrefuses

end Session

end TransformerEngine
