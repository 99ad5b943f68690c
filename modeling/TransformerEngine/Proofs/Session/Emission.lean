import TransformerEngine.Proofs.Plugin.Entry
import TransformerEngine.Proofs.Plugin.Grouping
import TransformerEngine.Proofs.Session.History

/-!
# Which transformers an emission runs

Three things happen between a `plugins` array and the factories that an emission calls. An
entry may configure several plugins; an export is loaded once for all plugins of one
identity, which may come from different entries; and of the plugins of one identity a
phase takes the first. `configured_group_exact` says what comes out: for each phase the
first plugin of each identity, in the order of the array, each calling the export of its
identity with the configuration of its own entry, and behind them the caller's factories.

That no plugin is lost on the way is due to the check that its export passed when it was
loaded, and to the consistency of what sessions keep.
-/

namespace TransformerEngine

variable {W : Type}

namespace Session

/-! ### Emitting with a group -/

/-- What emitting a program with the transformers of a group comes to. -/
def emitWith (program : Program) (target : Option SourceFile) (group : TransformerGroup W)
    (write : Writer W) : SessionStep W EmitResult :=
  fun session workspace =>
    let (result, reported, world) := program.emit target group write workspace.world
    (.ok (result.withDiagnostics (session.lineage.diagnostics program.id ++ reported)),
      session, { workspace with world })

/-- What transpiling with the transformers that `group` makes of the program comes to. -/
def transpileWith (request : TranspileRequest W) (group : Program → TransformerGroup W) :
    SessionStep W Transpiled :=
  fun session workspace =>
    let program := request.program workspace.nextId
    let (transpiled, reported, world) := program.transpile (group program) workspace.world
    (.ok { transpiled with diagnostics := transpiled.diagnostics ++ reported }, session,
      { workspace with world, nextId := workspace.nextId.next })

/-- The transformers that a session runs when a program is emitted. -/
def groupFor (resolved : List (ResolvedTransform W)) (caller : TransformerGroup W)
    (program : Program) : TransformerGroup W :=
  .forEmission resolved caller (.ofProgram program)

variable {session session' : Session W} {workspace workspace' : Workspace W}
variable {resolved : List (ResolvedTransform W)}

theorem emit_of_ok {program : Program}
    (h : resolvePlugins program.options session workspace = (.ok resolved, session', workspace'))
    (target : Option SourceFile) (caller : TransformerGroup W) (write : Writer W) :
    emit program target caller write session workspace =
      emitWith program target (groupFor resolved caller program) write session' workspace' := by
  rw [emit, h]
  rfl

theorem transpile_of_ok {request : TranspileRequest W}
    (h : resolvePlugins request.options session workspace =
      (.ok resolved, session', workspace')) :
    transpile request session workspace =
      transpileWith request (groupFor resolved request.transformers) session' workspace' := by
  rw [transpile, h]
  rfl

/-! ### The plugins of a phase -/

/-- What was loaded is what the modules of the session offer, and it can be called as its
kind asks for. -/
theorem offered_of_resolvePlugins {options : CompilerOptions}
    (hconsistent : session.cache.Consistent)
    (h : resolvePlugins options session workspace = (.ok resolved, session', workspace')) :
    PluginDescriptor.ofEntries options.plugins session.baseDirectory =
        .ok (resolved.map ResolvedTransform.descriptor) ∧
      ∀ t ∈ resolved, ∃ module,
        session'.cache.modules.find? t.descriptor.module = some module ∧
        module.resolve t.descriptor.importName = some t.value ∧
        t.value.supports t.descriptor.kind = true := by
  have hafter := (resolvePlugins_loads h).reaches.consistent hconsistent
  cases hread : PluginDescriptor.ofEntries options.plugins session.baseDirectory with
  | error error =>
    rw [resolvePlugins_of_error hread] at h
    exact nomatch congrArg Prod.fst h
  | ok ds =>
    rw [resolvePlugins_of_ok hread] at h
    obtain ⟨rfl, hexports⟩ := Loading.ok_of_loadAll (load_eq_iff.mp h).1
    exact ⟨rfl, fun t ht => hafter _ _ (hexports t ht)⟩

/-- The plugins that a phase takes are the first of their identity among the descriptors. -/
theorem map_firstsBy_resolved (resolved : List (ResolvedTransform W)) (phase : Phase) :
    (firstsBy ResolvedTransform.identity
        (resolved.filter fun t => t.descriptor.runsIn phase)).map ResolvedTransform.descriptor =
      firstsBy PluginDescriptor.identity
        ((resolved.map ResolvedTransform.descriptor).filter (·.runsIn phase)) := by
  rw [List.filter_map, firstsBy_map]
  rfl

/-! A plugin that is configured three times, and was loaded for another entry before. -/

namespace Sample

/-- Reports its configuration when it is called, and leaves files as they are. -/
def banner (config : Json) : Factory Nat := fun _ calls =>
  ⟨fun _ file _ calls => ⟨file, [], calls⟩, [.error 1 (config.render)], calls + 1⟩

def bannerStart : Workspace Nat where
  registry := ({} : ModuleRegistry Nat).register "banner" { main := some (.configFactory banner) }
  world := 0

/-- Configures `banner` with a text; `flags` say when it runs. -/
def bannerEntry (text : String) (flags : List (String × Json)) : Json :=
  .object ([("transform", .string "banner"), ("type", .string "config"), ("text", .string text)] ++
    flags)

def bannerOptions : CompilerOptions where
  plugins := [bannerEntry "one" [], bannerEntry "two" [], bannerEntry "three" [("after", .bool true)]]

/-- The session in which `banner` was loaded for no entry. -/
def bannerSession : Session Nat :=
  (loadPlugins [{ module := "banner", kind := .config }] {} bannerStart).2.1

/-- The workspace after that. -/
def bannerWorkspace : Workspace Nat :=
  (loadPlugins [{ module := "banner", kind := .config }] {} bannerStart).2.2

theorem bannerHistory : History (fun _ => True) none bannerSession bannerWorkspace :=
  .loaded _ (.opened trivial)

/-- What the options configure. -/
def bannerPlugins : List (ResolvedTransform Nat) :=
  [⟨{ module := "banner", kind := .config, config := bannerEntry "one" [] }, .configFactory banner⟩,
    ⟨{ module := "banner", kind := .config, config := bannerEntry "two" [] }, .configFactory banner⟩,
    ⟨{ module := "banner", kind := .config, phase := .after,
        config := bannerEntry "three" [("after", .bool true)] }, .configFactory banner⟩]

/-- The program that is emitted. -/
def bannerProgram : Program := ⟨⟨1⟩, [], bannerOptions, Table.empty, []⟩

theorem bannerPlugins_eq : resolvePlugins bannerOptions bannerSession bannerWorkspace =
    (.ok bannerPlugins, bannerSession, bannerWorkspace) := rfl

end Sample

/-- **The group of an emission is exact.** Let a session with any history find the plugins
of some options. Each entry configures some plugins, which keep it as their configuration;
in each phase of the group that the session emits or transpiles with there is one factory
for the first of each identity among the plugins that work on single files in this phase,
in the order of the entries, and behind them there are the caller's; and each configured
factory calls, with the context that it gets, the export that the module of its plugin
offers, handing it what its kind asks for. -/
theorem configured_group_exact {allowed : Table String (ModuleBuilder W) → Prop}
    {base : Option String} (history : History allowed base session workspace)
    {options : CompilerOptions}
    (h : resolvePlugins options session workspace = (.ok resolved, session', workspace')) :
    ∃ parts : List (List PluginDescriptor),
      List.Forall₂ (fun entry own => PluginEntry.descriptors base entry = .ok own ∧
        ∀ d ∈ own, d.config = entry) options.plugins parts ∧
      (∀ (program : Program) (caller : TransformerGroup W) (phase : Phase),
        ∃ configured : List (Factory W),
          (groupFor resolved caller program).phase phase = configured ++ caller.phase phase ∧
          List.Forall₂ (fun d factory => ∃ module value,
              session'.cache.modules.find? d.module = some module ∧
              module.resolve d.importName = some value ∧ d.Calls program value factory)
            (firstsBy PluginDescriptor.identity (parts.flatten.filter (·.runsIn phase)))
            configured) ∧
      (∀ program target caller write, program.options = options →
        emit program target caller write session workspace =
          emitWith program target (groupFor resolved caller program) write session' workspace') ∧
      ∀ request : TranspileRequest W, request.options = options →
        transpile request session workspace =
          transpileWith request (groupFor resolved request.transformers) session' workspace' := by
  have hsound := history.sound
  obtain ⟨hread, hoffered⟩ := offered_of_resolvePlugins hsound.consistent h
  rw [hsound.baseDirectory] at hread
  obtain ⟨parts, hparts, hflat⟩ := ofEntries_eq_ok.mp hread
  refine ⟨parts, ?_, fun program caller phase => ?_, ?_, ?_⟩
  · exact hparts.imp fun entry own hown => ⟨hown, PluginEntry.config_of_mem_descriptors hown⟩
  · have htaken : ∀ t ∈ firstsBy ResolvedTransform.identity
        (resolved.filter fun t => t.descriptor.runsIn phase),
        t ∈ resolved ∧ t.descriptor.runsIn phase = true :=
      fun t ht => List.mem_filter.mp (mem_of_mem_firstsBy ht)
    have hcalls := forall₂_factoriesOf program
      (fun t ht => (hoffered t (htaken t ht).1).elim fun _ hmodule => hmodule.2.2)
      (fun t ht => isProgramTransform_of_runsIn (htaken t ht).2)
    refine ⟨_, TransformerGroup.phase_forEmission .., ?_⟩
    rw [← hflat, ← map_firstsBy_resolved, List.forall₂_map_left_iff]
    -- each plugin is offered by its module, and its factory calls what is offered
    refine ((List.forall₂_and_left _ _).mpr
      ⟨fun t ht => hoffered t (htaken t ht).1, hcalls⟩).imp fun t factory => ?_
    rintro ⟨⟨module, hmodule, hresolve, -⟩, hcall⟩
    exact ⟨module, t.value, hmodule, hresolve, hcall⟩
  · rintro program target caller write rfl
    exact emit_of_ok h target caller write
  · rintro request rfl
    exact transpile_of_ok h

/-- In one phase `banner` is called with the first entry, though it was loaded for none and
is configured twice; in the other with the entry that names it there. -/
theorem configured_group_exact_sample :
    ∃ parts configured, List.Forall₂ (fun entry own =>
        PluginEntry.descriptors none entry = .ok own ∧ ∀ d ∈ own, d.config = entry)
        Sample.bannerOptions.plugins parts ∧
      List.Forall₂ (fun d factory => ∃ module value,
          Sample.bannerSession.cache.modules.find? d.module = some module ∧
          module.resolve d.importName = some value ∧
          d.Calls Sample.bannerProgram value factory)
        (firstsBy PluginDescriptor.identity (parts.flatten.filter (·.runsIn .before))) configured ∧
      configured = [Sample.banner (Sample.bannerEntry "one" [])] ∧
      (groupFor Sample.bannerPlugins {} Sample.bannerProgram).after =
        [Sample.banner (Sample.bannerEntry "three" [("after", .bool true)])] := by
  obtain ⟨parts, hparts, hgroup, -, -⟩ :=
    configured_group_exact Sample.bannerHistory Sample.bannerPlugins_eq
  obtain ⟨configured, hphase, hcalls⟩ := hgroup Sample.bannerProgram {} .before
  exact ⟨parts, configured, hparts, hcalls, (hphase.trans (List.append_nil _)).symm, rfl⟩

end Session

end TransformerEngine
