import TransformerEngine.Emit.Transpile
import TransformerEngine.Lineage.Run
import TransformerEngine.Plugin.Entry
import TransformerEngine.Plugin.Grouping

/-!
# Compilation sessions

A `Session` compiles with plugins. It finds the plugins that the options configure, runs
the per-file ones when it transpiles or emits, and runs the transforms of whole programs
when it creates a program. It keeps what it has loaded, and the lineages of the programs
it has created, for as long as it lives.

Sessions share a `Workspace`: the modules there are, the world of the code in them, and
the numbering of programs.

Plugins are found before anything else happens; if one cannot be, nothing else does.
-/

namespace TransformerEngine

variable {W : Type}

/-- What sessions share. -/
structure Workspace (W : Type) where
  /-- The modules that plugins are loaded from. -/
  registry : ModuleRegistry W := {}
  /-- The world of the code in them. -/
  world : W
  /-- The number of the next program. -/
  nextId : ProgramId := ⟨1⟩

/-- A compilation session. -/
structure Session (W : Type) where
  /-- What it has loaded. -/
  cache : ModuleCache W := {}
  /-- The lineages of the programs it has created. -/
  lineage : Lineage := Lineage.empty
  /-- The directory that relative module paths are read from. -/
  baseDirectory : Option String := none

/-- What a session does: the result, and session and workspace afterwards. -/
abbrev SessionStep (W α : Type) :=
  Session W → Workspace W → Except PluginError α × Session W × Workspace W

namespace Session

/-- Load plugins. -/
def load {α : Type} (loading : Loading W (ModuleRegistry W × W) α) : SessionStep W α :=
  fun session workspace =>
    let (result, cache, registry, world) :=
      loading.runOn session.cache (workspace.registry, workspace.world)
    (result, { session with cache }, { workspace with registry, world })

/-- Load the plugin of a descriptor. -/
def loadPlugin (d : PluginDescriptor) : SessionStep W (ResolvedTransform W) :=
  load (Loading.load ModuleRegistry.resolve d)

/-- Load the plugins of descriptors, up to the first failure. -/
def loadPlugins (ds : List PluginDescriptor) : SessionStep W (List (ResolvedTransform W)) :=
  load (Loading.loadAll ModuleRegistry.resolve ds)

/-- Load the plugins that options configure. -/
def resolvePlugins (options : CompilerOptions) : SessionStep W (List (ResolvedTransform W)) :=
  fun session workspace =>
    match PluginDescriptor.ofEntries options.plugins session.baseDirectory with
    | .ok ds => loadPlugins ds session workspace
    | .error error => (.error error, session, workspace)

/-- How many transforms were applied along a program's line in this session. -/
def appliedCount (session : Session W) (program : Program) : Nat :=
  session.lineage.appliedCount program.id

/-- Transpile a module with the configured per-file plugins in front of the caller's
transformers. Its diagnostics are the program's, then whatever was reported. -/
def transpile (request : TranspileRequest W) : SessionStep W Transpiled :=
  fun session workspace =>
    match resolvePlugins request.options session workspace with
    | (.error error, session, workspace) => (.error error, session, workspace)
    | (.ok resolved, session, workspace) =>
      let program := request.program workspace.nextId
      let group :=
        TransformerGroup.forEmission resolved request.transformers (.ofProgram program)
      let (transpiled, reported, world) := program.transpile group workspace.world
      (.ok { transpiled with diagnostics := transpiled.diagnostics ++ reported }, session,
        { workspace with world, nextId := workspace.nextId.next })

/-- Create a program and apply the configured transforms of whole programs to it. Before
any is applied, the lineages of programs that are not `live` any more are forgotten. -/
def createProgram (live : ProgramId → Bool) (roots : List String) (options : CompilerOptions)
    (host : CompilerHost) : SessionStep W Program :=
  fun session workspace =>
    match resolvePlugins options session workspace with
    | (.error error, session, workspace) => (.error error, session, workspace)
    | (.ok resolved, session, workspace) =>
      let program := Program.create roots options host workspace.nextId
      let workspace := { workspace with nextId := workspace.nextId.next }
      match programTransforms resolved with
      | [] => (.ok program, session, workspace)
      | transforms =>
        let state : RunState W :=
          { lineage := (session.lineage.prune live).1
            overlay := MemoryHost.layeredOn host
            nextId := workspace.nextId
            world := workspace.world }
        let (result, state) := applyTransforms transforms program state
        (result, { session with lineage := state.lineage },
          { workspace with world := state.world, nextId := state.nextId })

/-- Emit a program with the configured per-file plugins in front of the caller's
transformers. The diagnostics are the program's, then those of its line, then whatever was
reported in this emission. -/
def emit (program : Program) (target : Option SourceFile) (caller : TransformerGroup W)
    (write : Writer W) : SessionStep W EmitResult :=
  fun session workspace =>
    match resolvePlugins program.options session workspace with
    | (.error error, session, workspace) => (.error error, session, workspace)
    | (.ok resolved, session, workspace) =>
      let group := TransformerGroup.forEmission resolved caller (.ofProgram program)
      let (result, reported, world) := program.emit target group write workspace.world
      (.ok (result.withDiagnostics (session.lineage.diagnostics program.id ++ reported)),
        session, { workspace with world })

end Session

end TransformerEngine
