import TransformerEngine.Proofs.Lineage.Kept
import TransformerEngine.Proofs.Session.Loads

/-!
# Histories of sessions

A session that has a `History` was opened and then used in any way: to load plugins, to
transpile, to create programs and to emit them, with success or without. In between anything may
happen in the workspace that the session does not see: the world may change, other
programs may be made, and modules may come and go as far as `allowed` has it. Of
transforms it is assumed that what they return are programs, that is, that they were made.

Whatever the history, what the session has loaded is consistent, and programs that are not
made yet have no entry in its lineages (`History.sound`).
-/

namespace TransformerEngine

variable {W : Type}

namespace Session

/-! ### Creating a program -/

/-- The state in which the transforms of a new program of the session are applied. -/
def runStart (session : Session W) (workspace : Workspace W) (live : ProgramId → Bool)
    (host : CompilerHost) : RunState W where
  lineage := (session.lineage.prune live).1
  overlay := MemoryHost.layeredOn host
  nextId := workspace.nextId.next
  world := workspace.world

/-- What applying the transforms comes to when a program is created, if their plugins are
found. -/
def creationRun (live : ProgramId → Bool) (roots : List String) (options : CompilerOptions)
    (host : CompilerHost) (session : Session W) (workspace : Workspace W) :
    Option (Except PluginError Program × RunState W) :=
  match resolvePlugins options session workspace with
  | (.error _, _, _) => none
  | (.ok resolved, session, workspace) =>
    some (applyTransforms (programTransforms resolved)
      (Program.create roots options host workspace.nextId) (session.runStart workspace live host))

section Creating

variable {session session' : Session W} {workspace workspace' : Workspace W}
variable {live : ProgramId → Bool} {roots : List String} {options : CompilerOptions}
variable {host : CompilerHost}

theorem createProgram_of_error {error : PluginError}
    (h : resolvePlugins options session workspace = (.error error, session', workspace')) :
    createProgram live roots options host session workspace =
      (.error error, session', workspace') := by
  rw [createProgram, h]

/-- Without transforms the new program is returned, and nothing is forgotten. -/
theorem createProgram_of_none {resolved : List (ResolvedTransform W)}
    (h : resolvePlugins options session workspace = (.ok resolved, session', workspace'))
    (hnone : programTransforms resolved = []) :
    createProgram live roots options host session workspace =
      (.ok (Program.create roots options host workspace'.nextId), session',
        { workspace' with nextId := workspace'.nextId.next }) := by
  rw [createProgram, h]
  simp only [hnone]

/-- With transforms the outcome is that of applying them. -/
theorem createProgram_of_some {resolved : List (ResolvedTransform W)}
    {answer : Except PluginError Program × RunState W}
    (h : resolvePlugins options session workspace = (.ok resolved, session', workspace'))
    (hsome : programTransforms resolved ≠ [])
    (hanswer : applyTransforms (programTransforms resolved)
      (Program.create roots options host workspace'.nextId)
      (session'.runStart workspace' live host) = answer) :
    createProgram live roots options host session workspace =
      (answer.1, { session' with lineage := answer.2.lineage },
        { workspace' with world := answer.2.world, nextId := answer.2.nextId }) := by
  subst hanswer
  rw [createProgram, h]
  cases hcase : programTransforms resolved with
  | nil => exact absurd hcase hsome
  | cons t rest => simp only [hcase, runStart]

end Creating

/-! ### Histories -/

/-- Whatever the transforms return while this program is created was made by then. -/
def ReturnsMade (live : ProgramId → Bool) (roots : List String) (options : CompilerOptions)
    (host : CompilerHost) (session : Session W) (workspace : Workspace W) : Prop :=
  ∀ answer ∈ creationRun live roots options host session workspace,
    ∀ i output, RunEvent.returned i output ∈ answer.2.journal → answer.2.Made output.id

/-- Session and workspace after a session with the base directory `base` was opened and
used. There have always been modules that are `allowed`. -/
inductive History (allowed : Table String (ModuleBuilder W) → Prop) (base : Option String) :
    Session W → Workspace W → Prop where
  /-- The session is opened. -/
  | opened {workspace} (h : allowed workspace.registry.builders) :
      History allowed base { baseDirectory := base } workspace
  /-- Something happens elsewhere. -/
  | elapsed {session workspace} (later : Workspace W) (h : allowed later.registry.builders)
      (hnumbers : workspace.nextId.number ≤ later.nextId.number)
      (before : History allowed base session workspace) : History allowed base session later
  | loaded {session workspace} (ds : List PluginDescriptor)
      (before : History allowed base session workspace) :
      History allowed base (loadPlugins ds session workspace).2.1
        (loadPlugins ds session workspace).2.2
  | transpiled {session workspace} (request : TranspileRequest W)
      (before : History allowed base session workspace) :
      History allowed base (transpile request session workspace).2.1
        (transpile request session workspace).2.2
  /-- A program is created, or cannot be. Before, the programs that are not `live` any more
  are forgotten. -/
  | created {session workspace} (live : ProgramId → Bool) (roots : List String)
      (options : CompilerOptions) (host : CompilerHost)
      (made : ReturnsMade live roots options host session workspace)
      (before : History allowed base session workspace) :
      History allowed base (createProgram live roots options host session workspace).2.1
        (createProgram live roots options host session workspace).2.2
  | emitted {session workspace} (program : Program) (target : Option SourceFile)
      (caller : TransformerGroup W) (write : Writer W)
      (before : History allowed base session workspace) :
      History allowed base (emit program target caller write session workspace).2.1
        (emit program target caller write session workspace).2.2

/-! ### What is true of all of them -/

/-- What the uses of a session keep. -/
structure Sound (allowed : Table String (ModuleBuilder W) → Prop) (base : Option String)
    (session : Session W) (workspace : Workspace W) : Prop where
  baseDirectory : session.baseDirectory = base
  builders : allowed workspace.registry.builders
  /-- Exports are what their modules offer. -/
  consistent : session.cache.Consistent
  /-- If the modules never changed, what is kept was built by their builders. -/
  builtBy : ∀ builders, (∀ b, allowed b → b = builders) → session.cache.BuiltBy builders
  /-- Programs that are not made yet have no entry. -/
  numbered : ∀ id : ProgramId, ¬ id.number < workspace.nextId.number →
    session.lineage.find? id = none

variable {allowed : Table String (ModuleBuilder W) → Prop} {base : Option String}
variable {session session' : Session W} {workspace workspace' : Workspace W}

theorem Sound.opened (h : allowed workspace.registry.builders) :
    Sound allowed base { baseDirectory := base } workspace where
  baseDirectory := rfl
  builders := h
  consistent := ModuleCache.consistent_empty
  builtBy _ _ := ModuleCache.builtBy_empty
  numbered _ _ := rfl

theorem Sound.later (h : Sound allowed base session workspace) {later : Workspace W}
    (hbuilders : allowed later.registry.builders)
    (hnumbers : workspace.nextId.number ≤ later.nextId.number) :
    Sound allowed base session later where
  baseDirectory := h.baseDirectory
  builders := hbuilders
  consistent := h.consistent
  builtBy := h.builtBy
  numbered id hid := h.numbered id fun hmade => hid (Nat.lt_of_lt_of_le hmade hnumbers)

theorem Loads.sound (hloads : session.Loads workspace session' workspace')
    (h : Sound allowed base session workspace) : Sound allowed base session' workspace' where
  baseDirectory := hloads.baseDirectory.trans h.baseDirectory
  builders := by
    rw [(hloads.reaches.builds rfl).1]
    exact h.builders
  consistent := hloads.reaches.consistent h.consistent
  builtBy builders hall :=
    hloads.reaches.builtBy (hall _ h.builders) (h.builtBy builders hall)
  numbered id hid := by
    rw [hloads.lineage]
    exact h.numbered id (hloads.nextId ▸ hid)

/-- Forgetting programs leaves those without entry without one. -/
theorem Sound.runStart_numbered (h : Sound allowed base session workspace)
    (live : ProgramId → Bool) (host : CompilerHost) :
    (session.runStart workspace live host).Numbered := by
  intro id hid
  have hnone : session.lineage.find? id = none :=
    h.numbered id fun hmade => hid (Nat.lt_succ_of_lt hmade)
  show ((session.lineage.prune live).1).find? id = none
  rw [Lineage.find?_prune, hnone, ite_self]

theorem Sound.createProgram (h : Sound allowed base session workspace)
    {live : ProgramId → Bool} {roots : List String} {options : CompilerOptions}
    {host : CompilerHost} (made : ReturnsMade live roots options host session workspace) :
    Sound allowed base (createProgram live roots options host session workspace).2.1
      (createProgram live roots options host session workspace).2.2 := by
  cases hresolve : resolvePlugins options session workspace with
  | mk result after =>
    obtain ⟨session', workspace'⟩ := after
    have hloaded := (resolvePlugins_loads hresolve).sound h
    cases result with
    | error error =>
      rw [createProgram_of_error hresolve]
      exact hloaded
    | ok resolved =>
      by_cases hnone : programTransforms resolved = []
      · rw [createProgram_of_none hresolve hnone]
        exact hloaded.later hloaded.builders (Nat.le_succ _)
      · cases hanswer : applyTransforms (programTransforms resolved)
            (Program.create roots options host workspace'.nextId)
            (session'.runStart workspace' live host) with
        | mk result final =>
          rw [createProgram_of_some hresolve hnone hanswer]
          have hrun : (result, final) ∈ creationRun live roots options host session workspace := by
            rw [creationRun, hresolve, ← hanswer]
            rfl
          have hnumbered := applyTransforms_numbered
            (hloaded.runStart_numbered live host) (programTransforms resolved)
            (Program.create roots options host workspace'.nextId)
          rw [hanswer] at hnumbered
          exact ⟨hloaded.baseDirectory, hloaded.builders, hloaded.consistent, hloaded.builtBy,
            hnumbered (made _ hrun)⟩

/-- **Every use of a session keeps it sound.** -/
theorem History.sound (h : History allowed base session workspace) :
    Sound allowed base session workspace := by
  induction h with
  | opened h => exact .opened h
  | elapsed later h hnumbers before ih => exact ih.later h hnumbers
  | loaded ds before ih => exact (loadPlugins_loads rfl).sound ih
  | @transpiled session workspace request before ih =>
    rw [transpile]
    rcases hresolve : resolvePlugins request.options session workspace with
      ⟨error | resolved, session', workspace'⟩
    · exact (resolvePlugins_loads hresolve).sound ih
    · have hloaded := (resolvePlugins_loads hresolve).sound ih
      exact hloaded.later hloaded.builders (Nat.le_succ _)
  | created live roots options host made before ih => exact ih.createProgram made
  | @emitted session workspace program target caller write before ih =>
    rw [emit]
    rcases hresolve : resolvePlugins program.options session workspace with
      ⟨error | resolved, session', workspace'⟩
    · exact (resolvePlugins_loads hresolve).sound ih
    · have hloaded := (resolvePlugins_loads hresolve).sound ih
      exact hloaded.later hloaded.builders (Nat.le_refl _)

end Session

end TransformerEngine
