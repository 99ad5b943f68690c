import TransformerEngine.Proofs.Compiler.Creation
import TransformerEngine.Proofs.Compiler.Hosts
import TransformerEngine.Proofs.Lineage.Course

/-!
# Files that transforms add

An applier keeps the files that its transforms add in an overlay over the caller's host,
for as long as it is used. At every moment the overlay is what comes of writing all files
that were added so far, in the order in which it happened, to an empty table over that host
(`injection_courseRelation` along one run, `Serving.files_eq` from run to run). So the
journal says what a derived program is made of: for each of its roots the text that was
added last, whoever added it and whatever came of that invocation, or else what the host
has (`derived_from_added_or_supplied`).
-/

namespace TransformerEngine

variable {W : Type} {transforms : List (ResolvedTransform W)}

/-- The file that an event added. -/
def RunEvent.addedFile? : RunEvent → Option (String × String)
  | .addedFile _ name text => some (name, text)
  | _ => none

/-- The files that were added, in order. -/
def addedFiles (events : List RunEvent) : List (String × String) :=
  events.filterMap RunEvent.addedFile?

@[simp] theorem addedFiles_append (xs ys : List RunEvent) :
    addedFiles (xs ++ ys) = addedFiles xs ++ addedFiles ys :=
  List.filterMap_append

/-- **The overlay is written to as the journal says.** -/
theorem injection_courseRelation : CourseRelation fun (start now : RunState W) =>
    ∃ events, now.journal = start.journal ++ events ∧
      now.overlay = start.overlay.writeAll (addedFiles events) where
  refl state := ⟨[], (List.append_nil _).symm, rfl⟩
  trans := by
    rintro a b c ⟨events, hjournal, hoverlay⟩ ⟨more, hjournal', hoverlay'⟩
    refine ⟨events ++ more, ?_, ?_⟩
    · rw [hjournal', hjournal, List.append_assoc]
    · rw [hoverlay', hoverlay, addedFiles_append, MemoryHost.writeAll_append]
  begin state invocation := ⟨[_], rfl, rfl⟩
  addFile state invocation name text := ⟨[.addedFile invocation name text], rfl, rfl⟩
  report state invocation d := ⟨[_], rfl, rfl⟩
  askOrigin state invocation roots := ⟨[_], rfl, rfl⟩
  derive state invocation roots := ⟨[_], rfl, rfl⟩
  build state roots options := ⟨[], (List.append_nil _).symm, rfl⟩
  world state world := ⟨[], (List.append_nil _).symm, rfl⟩
  settle state invocation output reports := ⟨[_], rfl, rfl⟩
  fail state invocation failure := ⟨[_], rfl, rfl⟩

/-- An applier of `transforms` has served some runs, one after another: these are the files
of its overlay, and this is what happened. Between two runs the lineages, the world and the
caller's host may become whatever they like. -/
inductive Serving (transforms : List (ResolvedTransform W)) :
    Table String String → List RunEvent → Prop where
  | anew : Serving transforms Table.empty []
  | applied {files : Table String String} {journal : List RunEvent} {host : CompilerHost}
      {state : RunState W} (before : Serving transforms files journal)
      (overlay : state.overlay = { MemoryHost.layeredOn host with files })
      (hjournal : state.journal = journal) (program : Program) :
      Serving transforms (applyTransforms transforms program state).2.overlay.files
        (applyTransforms transforms program state).2.journal

/-- **From run to run.** -/
theorem Serving.files_eq {files : Table String String} {journal : List RunEvent}
    (h : Serving transforms files journal) :
    files = (addedFiles journal).foldl (fun table f => table.insert f.1 f.2) Table.empty := by
  induction h with
  | anew => rfl
  | @applied files journal host state before overlay hjournal program ih =>
    obtain ⟨events, hfinal, hoverlay⟩ := injection_courseRelation.finishes
      (finishes_applyTransforms transforms program state)
    rw [hfinal, hoverlay, MemoryHost.writeAll_eq, overlay, hjournal, addedFiles_append,
      List.foldl_append, ← ih]

/-- **At every moment** the overlay is what the added files make of the caller's host. -/
theorem Serving.overlay_eq {files : Table String String} {journal events : List RunEvent}
    (serving : Serving transforms files journal) {host : CompilerHost} {state now : RunState W}
    (overlay : state.overlay = { MemoryHost.layeredOn host with files })
    (hjournal : state.journal = journal) (hnow : now.journal = state.journal ++ events)
    (hwritten : now.overlay = state.overlay.writeAll (addedFiles events)) :
    now.overlay = (MemoryHost.layeredOn host).writeAll (addedFiles now.journal) := by
  -- the run began with what the earlier ones had added
  have hstart : state.overlay = (MemoryHost.layeredOn host).writeAll (addedFiles journal) := by
    rw [overlay, MemoryHost.writeAll_eq, serving.files_eq]
    rfl
  calc now.overlay
      = ((MemoryHost.layeredOn host).writeAll (addedFiles journal)).writeAll
          (addedFiles events) := by rw [hwritten, hstart]
    _ = (MemoryHost.layeredOn host).writeAll (addedFiles journal ++ addedFiles events) :=
          (MemoryHost.writeAll_append ..).symm
    _ = (MemoryHost.layeredOn host).writeAll (addedFiles now.journal) := by
          rw [hnow, hjournal, addedFiles_append]

/-- The file of a name: with the text that was added last for it, or else as `host` has
it. -/
def addedOrSupplied (host : CompilerHost) (journal : List RunEvent) (target : ScriptTarget)
    (name : String) : Option SourceFile :=
  match lastText (addedFiles journal) name with
  | some text => some ⟨name, text, target⟩
  | none => host.sourceFile name target

/-- All that was written since `start` was written to the overlay. It lies over the same
host as before; and in any set of hosts of which it is one, writing what was added to that
one makes it what the overlay is `now`, and the older hosts answer as they did. -/
structure WritesOverlayOnly (start now : RunState W) : Prop where
  below : now.overlay.below = start.overlay.below
  hosts : ∀ (hosts : HostSet) (number : Nat), hosts.memory? number = some start.overlay →
    (hosts.writeAll number (addedFiles (happened start now))).memory? number =
      some now.overlay ∧
    ∀ lower < number, (hosts.writeAll number (addedFiles (happened start now))).memory? lower =
      hosts.memory? lower

theorem writesOverlayOnly_of_eq {start now : RunState W} {events : List RunEvent}
    (hjournal : now.journal = start.journal ++ events)
    (hoverlay : now.overlay = start.overlay.writeAll (addedFiles events)) :
    WritesOverlayOnly start now where
  below := by rw [hoverlay, MemoryHost.writeAll_eq]
  hosts hosts number hnumber := by
    rw [happened_eq hjournal, hoverlay]
    exact ⟨hosts.memory_writeAll hnumber _, fun lower hlower => hosts.memory_writeAll_of_lt hlower _⟩

/-! An applier whose first run fails, and what it has left for the second. -/

namespace Sample

/-- The caller's host. -/
def caller : MemoryHost where
  files := .ofList [("main.ts", "main"), ("lib.ts", "lib")]
  currentDirectory := "/"

/-- Derives a program and returns its input, whatever came of it. -/
def gather : ResolvedTransform Unit :=
  .ofScript "gather" fun invocation =>
    .derive ["lib.ts", "gone.ts", "main.ts", "lib.ts"] fun _ => .done invocation.input

/-- Adds a file that the caller has, and fails. -/
def overwrite : ResolvedTransform Unit :=
  .ofScript "overwrite" fun _ => .addFile "lib.ts" "other" (.fail ⟨"too late", []⟩)

def gathering : List (ResolvedTransform Unit) := [gather, overwrite]

/-- Two programs that the caller has made. -/
def early : Program := .create ["main.ts"] {} caller.toHost ⟨0⟩

def late : Program := .create ["main.ts"] {} caller.toHost ⟨1⟩

/-- The state in which the applier is new. -/
def fresh : RunState Unit where
  lineage := .empty
  overlay := .layeredOn caller.toHost
  nextId := ⟨2⟩
  world := ()

/-- What the run of `early` comes to. -/
def wasted : Except PluginError Program × RunState Unit := applyTransforms gathering early fresh

/-- What `gather` derives when the applier is given `late` next. -/
def gathered : Program :=
  ((wasted.2.note (.began (gather.invocationOn late))).derive (gather.invocationOn late)
    ["lib.ts", "gone.ts", "main.ts", "lib.ts"]).1

/-- The caller's host, and the applier's overlay as the run of `early` has left it. -/
def stacked : HostSet :=
  (HostSet.add {} { files := caller.files }).add { files := wasted.2.overlay.files, below := some 0 }

/-- The same hosts after the run of `late`, in which `overwrite` was invoked twice. -/
def overwritten : HostSet := stacked.writeAll 1 [("lib.ts", "other"), ("lib.ts", "other")]

end Sample

/-- **A derived program is made of what was added and of what the caller has.** Whatever
runs an applier has served, in the next one every derived program, however deep it is
nested, has just the files of its roots, each root once and where it stands first: with the
text that was added last for it under this applier, be it by an invocation that failed, or
else as the caller's host has it. It says of each root of which there is neither that it
was not found. And nothing but the overlay is written to. -/
theorem derived_from_added_or_supplied {files : Table String String} {journal : List RunEvent}
    (serving : Serving transforms files journal) {host : CompilerHost} {state : RunState W}
    (overlay : state.overlay = { MemoryHost.layeredOn host with files })
    (hjournal : state.journal = journal) (program : Program) :
    (∀ invocation roots next reports now,
      Moment.Reaches transforms (.apply transforms program, state)
        (.follow invocation (.derive roots next) reports, now) →
      (now.derive invocation roots).1.sourceFiles.entries =
        Program.suppliedFiles
          (addedOrSupplied host now.journal invocation.input.options.scriptTarget) roots ∧
      (now.derive invocation roots).1.diagnostics =
        (Program.missingNames
          (addedOrSupplied host now.journal invocation.input.options.scriptTarget) roots).map
          Program.fileNotFound) ∧
    (∀ moment, Moment.Reaches transforms (.apply transforms program, state) moment →
      WritesOverlayOnly state moment.2) ∧
    WritesOverlayOnly state (applyTransforms transforms program state).2 := by
  refine ⟨fun invocation roots next reports now hmoment => ?_, fun moment hmoment => ?_, ?_⟩
  · obtain ⟨events, hnow, hoverlay⟩ := injection_courseRelation.reaches hmoment
    have hlayered := serving.overlay_eq overlay hjournal hnow hoverlay
    have hfiles : (now.overlay.toHost.sourceFile · invocation.input.options.scriptTarget) =
        addedOrSupplied host now.journal invocation.input.options.scriptTarget := by
      funext name
      rw [hlayered]
      exact MemoryHost.sourceFile_writeAll ..
    rw [← hfiles]
    exact ⟨Program.create_entries .., Program.create_diagnostics ..⟩
  · obtain ⟨events, hnow, hoverlay⟩ := injection_courseRelation.reaches hmoment
    exact writesOverlayOnly_of_eq hnow hoverlay
  · obtain ⟨events, hnow, hoverlay⟩ := injection_courseRelation.finishes
      (finishes_applyTransforms transforms program state)
    exact writesOverlayOnly_of_eq hnow hoverlay

/-- The first run failed, and the second finds what was added in it. The caller has its own
file still. -/
theorem derived_from_added_or_supplied_sample :
    Sample.wasted.1 = .error (.transformer ⟨"too late", []⟩) ∧
    (Sample.gathered.sourceFiles.entries =
        [("lib.ts", ⟨"lib.ts", "other", .es5⟩), ("main.ts", ⟨"main.ts", "main", .es5⟩)] ∧
      Sample.gathered.diagnostics = [Program.fileNotFound "gone.ts"]) ∧
    (Sample.overwritten.memory? 1 =
        some (applyTransforms Sample.gathering Sample.late Sample.wasted.2).2.overlay ∧
      Sample.overwritten.memory? 0 = some Sample.caller) := by
  have hserving : Serving Sample.gathering Sample.wasted.2.overlay.files Sample.wasted.2.journal :=
    .applied .anew rfl rfl Sample.early
  have hoverlay : Sample.wasted.2.overlay = { MemoryHost.layeredOn Sample.caller.toHost with
      files := Sample.wasted.2.overlay.files } := rfl
  have hnew : Sample.gather.identity ∉ Sample.wasted.2.lineage.applied Sample.late.id := by decide
  obtain ⟨hderived, -, hwrites⟩ :=
    derived_from_added_or_supplied hserving hoverlay rfl Sample.late
  obtain ⟨hfiles, hmissing⟩ := hderived _ _ _ _ _ (.single (.invokes hnew rfl))
  obtain ⟨hupper, hlower⟩ := hwrites.hosts Sample.stacked 1 rfl
  exact ⟨rfl, ⟨hfiles.trans rfl, hmissing.trans rfl⟩, hupper, hlower 0 Nat.one_pos⟩

end TransformerEngine
