import Mathlib.Data.List.TakeWhile
import TransformerEngine.Emit.Transpile
import TransformerEngine.Proofs.Emit.Watching

/-!
# The trace of an emission

What a watched emission does comes in stretches, each of which puts known actions on record
and keeps the record coherent (`Does`): calling factories (`groupInstantiate_does`), handing a
file through a phase (`runPhase_does`), emitting a file (`emitFile_does`) and emitting files
(`emitFiles_does`). All of them rest on one invariant of the transformers at work: they are
watched, and they remember the files that the record says they were handed (`Attends`). What
is put on record for other transformers does not touch it (`Attends.frame`).

`emission_trace` is the whole trace: all factories in order, and then each file in order, on
its way through the phases (`Passage`).
-/

namespace TransformerEngine

variable {W : Type}

/-! ### What a stretch of an emission does -/

/-- The actions on record. -/
def Stage.actions (stage : Stage (W × List EmitEvent)) : List EmitAction :=
  stage.world.2.map EmitEvent.action

/-- The context has what is reported on record, and the record is coherent. -/
structure Watched (start : TransformationContext) (stage : Stage (W × List EmitEvent)) : Prop where
  context : stage.context = start.after stage.world.2
  coherent : Coherent start stage.world.2

/-- Between two stages of an emission the actions were done. -/
structure Does (start : TransformationContext) (stage stage' : Stage (W × List EmitEvent))
    (actions : List EmitAction) : Prop where
  actions : stage'.actions = stage.actions ++ actions
  watched : Watched start stage → Watched start stage'

section Stretches

variable {start : TransformationContext} {stage stage' stage'' : Stage (W × List EmitEvent)}

theorem Does.refl : Does start stage stage [] := ⟨(List.append_nil _).symm, id⟩

theorem Does.trans {first second : List EmitAction} (h : Does start stage stage' first)
    (h' : Does start stage' stage'' second) : Does start stage stage'' (first ++ second) where
  actions := by rw [h'.actions, h.actions, List.append_assoc]
  watched hw := h'.watched (h.watched hw)

/-- An event that follows the record, and whose reports join the context, is an action done. -/
theorem does_of_event (event : EmitEvent) (hevents : stage'.world.2 = stage.world.2 ++ [event])
    (hcontext : stage'.context =
      { stage.context with diagnostics := stage.context.diagnostics ++ event.reports })
    (hfollows : Watched start stage → event.Follows start stage.world.2) :
    Does start stage stage' [event.action] where
  actions := by
    rw [Stage.actions, hevents, List.map_append]
    rfl
  watched hw := by
    refine ⟨?_, ?_⟩
    · rw [hcontext, hw.context, hevents, after_concat]
    · rw [hevents]
      exact hw.coherent.concat (hfollows hw)

theorem writeOutput_does (start : TransformationContext) (stage : Stage (W × List EmitEvent))
    (write : Writer W) (output : Output) :
    Does start stage ((writeOutput (observeWriter write) output).run stage).2
      [.write output] := by
  refine does_of_event (.wrote output) rfl ?_ fun _ => trivial
  change stage.context =
    { stage.context with diagnostics := stage.context.diagnostics ++ [] }
  rw [List.append_nil]

end Stretches

/-! ### Transformers at work -/

/-- The transformers, `count` of them from a place of a phase on, are watched, and they
remember what they were handed according to the record. -/
inductive Attends (phase : Phase) (actions : List EmitAction) :
    (index count : Nat) → List (ActiveTransformer (W × List EmitEvent)) → Prop
  | nil {index : Nat} : Attends phase actions index 0 []
  | cons {index count : Nat} (transformer : Transformer W) {seen : List SourceFile}
      {rest : List (ActiveTransformer (W × List EmitEvent))}
      (hseen : seen = givenTo phase index actions)
      (hrest : Attends phase actions (index + 1) count rest) :
      Attends phase actions index (count + 1)
        (⟨observeTransformer phase index transformer, seen⟩ :: rest)

/-- Nothing in the actions is for the transformers of a phase, from a place on. -/
def Apart (phase : Phase) (index : Nat) (actions : List EmitAction) : Prop :=
  ∀ index', index ≤ index' → givenTo phase index' actions = []

section Phases

variable {phase phase' : Phase} {index count : Nat} {actions more : List EmitAction}
variable {actives : List (ActiveTransformer (W × List EmitEvent))}

theorem Apart.append (h : Apart phase index actions) (h' : Apart phase index more) :
    Apart phase index (actions ++ more) := fun index' hindex => by
  rw [givenTo_append, h index' hindex, h' index' hindex, List.append_nil]

/-- What is not for them leaves the transformers as they are. -/
theorem Attends.frame (h : Attends phase actions index count actives)
    (hmore : Apart phase index more) : Attends phase (actions ++ more) index count actives := by
  induction h with
  | nil => exact .nil
  | @cons index count transformer seen rest hseen _ ih =>
    refine .cons transformer ?_ (ih fun index' hindex => hmore index' (Nat.le_of_succ_le hindex))
    rw [givenTo_append, hmore index (Nat.le_refl index), List.append_nil]
    exact hseen

variable {start : TransformationContext} {stage stage' : Stage (W × List EmitEvent)}

theorem Does.apart (h : Does start stage stage' more) (hstage : Apart phase index stage.actions)
    (hmore : Apart phase index more) : Apart phase index stage'.actions := by
  rw [h.actions]
  exact hstage.append hmore

theorem Does.attends (h : Does start stage stage' more)
    (hstage : Attends phase stage.actions index count actives) (hmore : Apart phase index more) :
    Attends phase stage'.actions index count actives := by
  rw [h.actions]
  exact hstage.frame hmore

end Phases

/-- The transformers of a group at work, as the record has it. -/
structure AttendsAll (group : TransformerGroup W) (actions : List EmitAction)
    (active : ActiveGroup (W × List EmitEvent)) : Prop where
  before : Attends .before actions 0 group.before.length active.before
  after : Attends .after actions 0 group.after.length active.after
  afterDeclarations :
    Attends .afterDeclarations actions 0 group.afterDeclarations.length active.afterDeclarations

/-! ### Calling the factories -/

/-- Calls of factories, from a place of a phase on. -/
def callsFrom (phase : Phase) (index count : Nat) : List EmitAction :=
  (List.range' index count).map (EmitAction.call phase)

/-- The calls of all factories of a group, phase by phase. -/
def TransformerGroup.calls (group : TransformerGroup W) : List EmitAction :=
  callsFrom .before 0 group.before.length ++ callsFrom .after 0 group.after.length ++
    callsFrom .afterDeclarations 0 group.afterDeclarations.length

section Factories

variable {stage : Stage (W × List EmitEvent)}

/-- Calling a factory hands nothing to any transformer. -/
theorem apart_callsFrom (phase phase' : Phase) (index index' count : Nat) :
    Apart phase' index' (callsFrom phase index count) := fun _ _ => by
  rw [givenTo, callsFrom, List.filterMap_map]
  exact List.filterMap_eq_nil_iff.mpr fun _ _ => rfl

/-- Factories are called one after the other, and the transformers that they make are handed
nothing yet. -/
theorem instantiate_does (start : TransformationContext) {phase : Phase} {index : Nat}
    (factories : List (Factory W)) (hfresh : Apart phase index stage.actions) :
    let run := (instantiate (observeFactories phase index factories)).run stage
    Does start stage run.2 (callsFrom phase index factories.length) ∧
      Attends phase run.2.actions index factories.length run.1 := by
  induction factories generalizing index stage with
  | nil => exact ⟨.refl, .nil⟩
  | cons factory rest ih =>
    let reply := factory stage.context stage.world.1
    let called := ((perform (observeFactory phase index factory)).run stage).2
    have hcall : Does start stage called [.call phase index] :=
      does_of_event (.called phase index stage.context reply.reports) rfl rfl Watched.context
    have hcalled : Apart phase (index + 1) called.actions := by
      rw [hcall.actions]
      refine Apart.append (fun index' hindex => ?_) fun _ _ => rfl
      exact hfresh index' (Nat.le_of_succ_le hindex)
    obtain ⟨hdoes, hattends⟩ := ih hcalled
    have hall := hcall.trans hdoes
    have hseen : [] = givenTo phase index
        ((instantiate (observeFactories phase (index + 1) rest)).run called).2.actions := by
      rw [hall.actions]
      exact (hfresh.append (apart_callsFrom phase phase index index (rest.length + 1)) index
        (Nat.le_refl index)).symm
    exact ⟨hall, .cons reply.value hseen hattends⟩

/-- All factories are called, phase by phase. -/
theorem groupInstantiate_does (start : TransformationContext) (group : TransformerGroup W)
    (hfresh : stage.actions = []) :
    let run := group.observed.instantiate.run stage
    Does start stage run.2 group.calls ∧ AttendsAll group run.2.actions run.1 := by
  let first := (instantiate (observeFactories .before 0 group.before)).run stage
  let second := (instantiate (observeFactories .after 0 group.after)).run first.2
  let third :=
    (instantiate (observeFactories .afterDeclarations 0 group.afterDeclarations)).run second.2
  have hstage : ∀ phase, Apart phase 0 stage.actions := fun phase _ _ => by
    rw [hfresh]
    rfl
  obtain ⟨hfirst, hbefore⟩ := instantiate_does start group.before (hstage .before)
  have hnext : ∀ phase, Apart phase 0 first.2.actions := fun phase =>
    hfirst.apart (hstage phase) (apart_callsFrom _ _ _ _ _)
  obtain ⟨hsecond, hafter⟩ := instantiate_does start group.after (hnext .after)
  have hlast : ∀ phase, Apart phase 0 second.2.actions := fun phase =>
    hsecond.apart (hnext phase) (apart_callsFrom _ _ _ _ _)
  obtain ⟨hthird, hdeclarations⟩ :=
    instantiate_does start group.afterDeclarations (hlast .afterDeclarations)
  -- the factories of later phases hand nothing to the transformers of earlier ones
  refine ⟨(hfirst.trans hsecond).trans hthird, ?_, ?_, hdeclarations⟩
  · have hkept := hsecond.attends hbefore (apart_callsFrom _ _ _ _ _)
    exact hthird.attends hkept (apart_callsFrom _ _ _ _ _)
  · exact hthird.attends hafter (apart_callsFrom _ _ _ _ _)

end Factories

/-! ### Handing a file through a phase -/

/-- A file on its way through a phase, from a place on: each transformer is handed what the
one before it made. -/
def passFrom (phase : Phase) : Nat → SourceFile → List SourceFile → List EmitAction
  | _, _, [] => []
  | index, file, result :: rest =>
    .run phase index file result :: passFrom phase (index + 1) result rest

section Passing

variable {start : TransformationContext} {stage : Stage (W × List EmitEvent)}
variable {phase phase' : Phase} {index index' count : Nat}

theorem givenTo_run_of_ne (h : phase = phase' → index ≠ index') (file result : SourceFile) :
    givenTo phase' index' [.run phase index file result] = [] := by
  simpa [givenTo] using h

theorem givenTo_run (phase : Phase) (index : Nat) (file result : SourceFile) :
    givenTo phase index [.run phase index file result] = [file] := by
  simp [givenTo]

/-- What is handed on in a phase is not for its earlier transformers. -/
theorem givenTo_passFrom_of_lt (h : index' < index) (file : SourceFile)
    (results : List SourceFile) :
    givenTo phase index' (passFrom phase index file results) = [] := by
  induction results generalizing index file with
  | nil => rfl
  | cons result rest ih =>
    have hfirst : givenTo phase index' [.run phase index file result] = [] :=
      givenTo_run_of_ne (fun _ => Nat.ne_of_gt h) file result
    change givenTo phase index' ([_] ++ _) = []
    rw [givenTo_append, hfirst, ih (Nat.lt_succ_of_lt h)]
    rfl

/-- What is handed on in a phase is not for another phase. -/
theorem apart_passFrom (h : phase ≠ phase') (file : SourceFile) (results : List SourceFile) :
    Apart phase' index' (passFrom phase index file results) := by
  induction results generalizing index file with
  | nil => exact fun _ _ => rfl
  | cons result rest ih =>
    have hfirst : Apart phase' index' [.run phase index file result] := fun _ _ =>
      givenTo_run_of_ne (fun heq => absurd heq h) file result
    exact hfirst.append (ih result)

/-- A file goes from transformer to transformer, and what the last one made of it is what
comes out. -/
theorem runPhase_does (start : TransformationContext)
    {actives : List (ActiveTransformer (W × List EmitEvent))}
    (hattends : Attends phase stage.actions index count actives) (file : SourceFile) :
    ∃ results actives' stage',
      (runPhase actives file).run stage = ((results.getLastD file, actives'), stage') ∧
      results.length = count ∧
      Does start stage stage' (passFrom phase index file results) ∧
      Attends phase stage'.actions index count actives' := by
  induction actives generalizing index count file stage with
  | nil =>
    cases hattends
    exact ⟨[], [], stage, rfl, rfl, .refl, .nil⟩
  | cons active rest ih =>
    cases hattends with
    | @cons _ count transformer seen _ hseen hrest =>
      let reply := transformer seen file stage.context stage.world.1
      let first := ((ActiveTransformer.mk (observeTransformer phase index transformer) seen).apply
        file).run stage
      let event := EmitEvent.ran phase index stage.context seen file reply.value reply.reports
      have hfirst : Does start stage first.2 [.run phase index file reply.value] :=
        does_of_event event rfl rfl fun hw => ⟨hw.context, hseen⟩
      have hothers : Attends phase first.2.actions (index + 1) count rest := by
        refine hfirst.attends hrest fun index' hindex => ?_
        exact givenTo_run_of_ne (fun _ => Nat.ne_of_lt hindex) file reply.value
      -- the others pass on what this one made
      obtain ⟨results, actives', stage', hrun, hlength, hdoes, hattends'⟩ := ih hothers reply.value
      have hall := hfirst.trans hdoes
      -- it remembers this file too, and is handed nothing more behind it
      have hseen' : seen ++ [file] = givenTo phase index stage'.actions := by
        rw [hall.actions, givenTo_append, givenTo_append, givenTo_run, hseen,
          givenTo_passFrom_of_lt (Nat.lt_succ_self index), List.append_nil]
      refine ⟨reply.value :: results, _ :: actives', stage', ?_, congrArg Nat.succ hlength, hall,
        .cons transformer hseen' hattends'⟩
      rw [List.getLastD_cons]
      change ((((runPhase rest reply.value).run first.2).1.1,
        _ :: ((runPhase rest reply.value).run first.2).1.2),
        ((runPhase rest reply.value).run first.2).2) = _
      rw [hrun]

end Passing

/-! ### Emitting files -/

/-- One file's way through an emission. -/
structure Passage where
  /-- The file, as it is in the program. -/
  source : SourceFile
  /-- What the `before` transformers made of it, one after the other. -/
  before : List SourceFile
  /-- What the `after` transformers made of that, one after the other. -/
  after : List SourceFile
  /-- What the `afterDeclarations` transformers made, one after the other. -/
  afterDeclarations : List SourceFile

namespace Passage

/-- The file as the `before` transformers leave it. -/
def transformed (p : Passage) : SourceFile := p.before.getLastD p.source

/-- The transformed file, under the name of an output of the file that it came from. -/
def named (p : Passage) (options : CompilerOptions) (kind : OutputKind) : SourceFile :=
  p.transformed.withName (outputName p.source.name options.outDir kind)

/-- The file as the `after` transformers leave it. -/
def script (p : Passage) (options : CompilerOptions) : SourceFile :=
  p.after.getLastD (p.named options .script)

/-- The file as the `afterDeclarations` transformers leave it. -/
def declaration (p : Passage) (options : CompilerOptions) : SourceFile :=
  p.afterDeclarations.getLastD (p.named options .declaration)

/-- What is done on the way. -/
def actions (p : Passage) (options : CompilerOptions) : List EmitAction :=
  passFrom .before 0 p.source p.before ++
    (passFrom .after 0 (p.named options .script) p.after ++
      [.write (.ofFile (p.script options))]) ++
    if options.declaration = some true then
      passFrom .afterDeclarations 0 (p.named options .declaration) p.afterDeclarations ++
        [.write (.ofFile (p.declaration options))]
    else []

/-- What is written on the way. -/
def outputs (p : Passage) (options : CompilerOptions) : List Output :=
  .ofFile (p.script options) ::
    if options.declaration = some true then [.ofFile (p.declaration options)] else []

/-- Every transformer of the group had its turn; those for declarations have one where
declarations are asked for. -/
structure Fits (p : Passage) (group : TransformerGroup W) (options : CompilerOptions) : Prop where
  before : p.before.length = group.before.length
  after : p.after.length = group.after.length
  afterDeclarations : p.afterDeclarations.length =
    if options.declaration = some true then group.afterDeclarations.length else 0

end Passage

section Files

variable {stage : Stage (W × List EmitEvent)} {group : TransformerGroup W}
variable {active : ActiveGroup (W × List EmitEvent)}

/-- The second step of a run goes on from where the first one came to. -/
theorem run_bind_of {σ α β : Type} {m : StateM σ α} {f : α → StateM σ β} {s s' : σ} {a : α}
    (h : m.run s = (a, s')) : (m >>= f).run s = (f a).run s' := by
  change (f (m.run s).1).run (m.run s).2 = _
  rw [h]

/-- What a phase does with one file, written output included, is not for another phase. -/
theorem apart_written {phase phase' : Phase} (h : phase ≠ phase') (file : SourceFile)
    (results : List SourceFile) (output : Output) :
    Apart phase' 0 (passFrom phase 0 file results ++ [.write output]) :=
  (apart_passFrom h file results).append fun _ _ => rfl

/-- A file goes through a phase, and what comes out is written. -/
theorem runAndWrite_does (start : TransformationContext) (write : Writer W) {phase : Phase}
    {count : Nat} {actives : List (ActiveTransformer (W × List EmitEvent))}
    (hattends : Attends phase stage.actions 0 count actives) (file : SourceFile) :
    ∃ results actives' stage',
      (runPhase actives file).run stage = ((results.getLastD file, actives'), stage') ∧
      results.length = count ∧
      let written := ((writeOutput (observeWriter write)
        (.ofFile (results.getLastD file))).run stage').2
      Does start stage written
        (passFrom phase 0 file results ++ [.write (.ofFile (results.getLastD file))]) ∧
      Attends phase written.actions 0 count actives' := by
  obtain ⟨results, actives', stage', hrun, hlength, hdoes, hattends'⟩ :=
    runPhase_does start hattends file
  have hwrite := writeOutput_does start stage' write (.ofFile (results.getLastD file))
  exact ⟨results, actives', stage', hrun, hlength, hdoes.trans hwrite,
    hwrite.attends hattends' fun _ _ => rfl⟩

/-- A file is emitted along one passage. -/
theorem emitFile_does (start : TransformationContext) (options : CompilerOptions)
    (write : Writer W) (hattends : AttendsAll group stage.actions active) (file : SourceFile) :
    ∃ p : Passage, ∃ active' stage',
      (emitFile options (observeWriter write) active file).run stage =
        ((p.outputs options, active'), stage') ∧
      p.source = file ∧ p.Fits group options ∧ Does start stage stage' (p.actions options) ∧
      AttendsAll group stage'.actions active' := by
  obtain ⟨hbefore, hafter, hlast⟩ := hattends
  -- each phase leaves the transformers of the other two as they are
  obtain ⟨before, actives, stage₁, hrun₁, hlength₁, hdoes₁, hbefore⟩ :=
    runPhase_does start hbefore file
  replace hafter := hdoes₁.attends hafter (apart_passFrom (by decide) file before)
  replace hlast := hdoes₁.attends hlast (apart_passFrom (by decide) file before)
  obtain ⟨after, actives', stage₂, hrun₂, hlength₂, hdoes₂, hafter⟩ := runAndWrite_does start
    write hafter ((before.getLastD file).withName (outputName file.name options.outDir .script))
  replace hbefore := hdoes₂.attends hbefore (apart_written (by decide) _ _ _)
  replace hlast := hdoes₂.attends hlast (apart_written (by decide) _ _ _)
  by_cases hdeclaration : options.declaration = some true
  · obtain ⟨last, actives'', stage₃, hrun₃, hlength₃, hdoes₃, hlast⟩ := runAndWrite_does start
      write hlast
      ((before.getLastD file).withName (outputName file.name options.outDir .declaration))
    replace hbefore := hdoes₃.attends hbefore (apart_written (by decide) _ _ _)
    replace hafter := hdoes₃.attends hafter (apart_written (by decide) _ _ _)
    refine ⟨⟨file, before, after, last⟩, ⟨actives, actives', actives''⟩, _, ?_, rfl,
      ⟨hlength₁, hlength₂, ?_⟩, ?_, hbefore, hafter, hlast⟩
    · rw [emitFile]
      refine (run_bind_of hrun₁).trans ((run_bind_of hrun₂).trans ?_)
      refine (run_bind_of rfl).trans ?_
      rw [if_pos hdeclaration]
      refine (run_bind_of hrun₃).trans ?_
      rw [Passage.outputs, if_pos hdeclaration]
      rfl
    · rw [if_pos hdeclaration]
      exact hlength₃
    · rw [Passage.actions, if_pos hdeclaration]
      exact (hdoes₁.trans hdoes₂).trans hdoes₃
  · refine ⟨⟨file, before, after, []⟩, ⟨actives, actives', active.afterDeclarations⟩, _, ?_, rfl,
      ⟨hlength₁, hlength₂, ?_⟩, ?_, hbefore, hafter, hlast⟩
    · rw [emitFile]
      refine (run_bind_of hrun₁).trans ((run_bind_of hrun₂).trans ?_)
      refine (run_bind_of rfl).trans ?_
      rw [if_neg hdeclaration, Passage.outputs, if_neg hdeclaration]
      rfl
    · rw [if_neg hdeclaration]
      rfl
    · rw [Passage.actions, if_neg hdeclaration, List.append_nil]
      exact hdoes₁.trans hdoes₂

/-- Files are emitted one after the other. -/
theorem emitFiles_does (start : TransformationContext) (options : CompilerOptions)
    (write : Writer W) (hattends : AttendsAll group stage.actions active)
    (files : List SourceFile) :
    ∃ passages : List Passage, ∃ stage',
      (emitFiles options (observeWriter write) active files).run stage =
        (passages.flatMap fun p => p.outputs options, stage') ∧
      passages.map Passage.source = files ∧ (∀ p ∈ passages, p.Fits group options) ∧
      Does start stage stage' (passages.flatMap fun p => p.actions options) := by
  induction files generalizing active stage with
  | nil => exact ⟨[], stage, rfl, rfl, fun _ h => absurd h (List.not_mem_nil), .refl⟩
  | cons file rest ih =>
    obtain ⟨p, active', stage', hrun, hsource, hfits, hdoes, hattends'⟩ :=
      emitFile_does start options write hattends file
    obtain ⟨passages, stage'', hruns, hsources, hfit, hothers⟩ := ih hattends'
    refine ⟨p :: passages, stage'', ?_, ?_, ?_, ?_⟩
    · rw [emitFiles]
      exact (run_bind_of hrun).trans (run_bind_of hruns)
    · rw [List.map_cons, hsource, hsources]
    · exact List.forall_mem_cons.mpr ⟨hfits, hfit⟩
    · exact hdoes.trans hothers

end Files

/-! ### What is written -/

section Written

theorem writtenBy_callsFrom (phase : Phase) (index count : Nat) :
    writtenBy (callsFrom phase index count) = [] := by
  rw [writtenBy, callsFrom, List.filterMap_map]
  exact List.filterMap_eq_nil_iff.mpr fun _ _ => rfl

theorem writtenBy_passFrom (phase : Phase) (index : Nat) (file : SourceFile)
    (results : List SourceFile) : writtenBy (passFrom phase index file results) = [] := by
  induction results generalizing index file with
  | nil => rfl
  | cons result rest ih => exact ih (index + 1) result

theorem writtenBy_calls (group : TransformerGroup W) : writtenBy group.calls = [] := by
  simp only [TransformerGroup.calls, writtenBy_append, writtenBy_callsFrom, List.append_nil]

theorem Passage.writtenBy_actions (p : Passage) (options : CompilerOptions) :
    writtenBy (p.actions options) = p.outputs options := by
  have hwrite : ∀ output, writtenBy [.write output] = [output] := fun _ => rfl
  rw [Passage.actions, Passage.outputs]
  split
  · simp only [writtenBy_append, writtenBy_passFrom, hwrite, List.nil_append, List.cons_append]
  · simp only [writtenBy_append, writtenBy_passFrom, hwrite, List.nil_append, List.append_nil]

theorem writtenBy_passages (passages : List Passage) (options : CompilerOptions) :
    writtenBy (passages.flatMap fun p => p.actions options) =
      passages.flatMap fun p => p.outputs options := by
  induction passages with
  | nil => rfl
  | cons p rest ih =>
    rw [List.flatMap_cons, List.flatMap_cons, writtenBy_append, ih, p.writtenBy_actions]

/-- The output is the file with one line feed in place of the white space at its end. -/
def SourceFile.PrintsAs (file : SourceFile) (output : Output) : Prop :=
  output.name = file.name ∧ ∃ kept blanks : List Char, file.text.toList = kept ++ blanks ∧
    (∀ c ∈ blanks, Text.isBlank c = true) ∧ (∀ c ∈ kept.getLast?, Text.isBlank c = false) ∧
    output.text.toList = kept ++ ['\n']

theorem printsAs_ofFile (file : SourceFile) : file.PrintsAs (.ofFile file) := by
  let reversed := file.text.toList.reverse
  refine ⟨rfl, (reversed.dropWhile Text.isBlank).reverse,
    (reversed.takeWhile Text.isBlank).reverse, ?_, ?_, ?_, ?_⟩
  · rw [← List.reverse_append, List.takeWhile_append_dropWhile, List.reverse_reverse]
  · intro c hc
    exact List.mem_takeWhile_imp (List.mem_reverse.mp hc)
  · intro c hc
    rw [List.getLast?_reverse] at hc
    have hfirst := List.head?_dropWhile_not Text.isBlank reversed
    rw [Option.mem_def.mp hc] at hfirst
    exact hfirst
  · rw [Output.ofFile, String.toList_append, Text.trimEnd, String.toList_ofList]
    rfl

end Written

/-! ### The whole trace -/

namespace Program

variable (program : Program) (target : Option SourceFile) (group : TransformerGroup W)
variable (write : Writer W) (context : TransformationContext) (world : W)

variable {program} in
theorem watchedEmission_of_skips (h : program.skipsEmit = true) :
    program.watchedEmission target group write context world =
      ((⟨true, program.diagnostics, []⟩, []), { context, world := (world, []) }) := by
  rw [watchedEmission, emitOutputs, if_pos h]
  rfl

variable {program} in
/-- An emission that is not skipped calls the factories and goes along one passage for each
file. -/
theorem watchedEmission_does (h : program.skipsEmit = false) :
    let watched := program.watchedEmission target group write context world
    ∃ passages : List Passage,
      let outputs := passages.flatMap fun p => p.outputs program.options
      watched.1 = (⟨false, program.diagnostics, outputs.map Output.name⟩, outputs) ∧
      passages.map Passage.source = program.emittedSources target ∧
      (∀ p ∈ passages, p.Fits group program.options) ∧
      Does context { context, world := (world, []) } watched.2
        (group.calls ++ passages.flatMap fun p => p.actions program.options) := by
  obtain ⟨hcalls, hattends⟩ := groupInstantiate_does context group
    (rfl : Stage.actions { context, world := (world, []) } = [])
  obtain ⟨passages, stage, hrun, hsources, hfits, hdoes⟩ := emitFiles_does context program.options
    write hattends (program.emittedSources target)
  let outputs := passages.flatMap fun p => p.outputs program.options
  have hwatched : program.watchedEmission target group write context world =
      ((⟨false, program.diagnostics, outputs.map Output.name⟩, outputs), stage) := by
    have hemits : ¬ program.skipsEmit = true := Bool.not_eq_true _ ▸ h
    rw [watchedEmission, emitOutputs, if_neg hemits]
    exact (run_bind_of rfl).trans (run_bind_of hrun)
  rw [hwatched]
  exact ⟨passages, rfl, hsources, hfits, hcalls.trans hdoes⟩

/-- A watched emission, skipped or not, is watched to its end. -/
theorem watched_watchedEmission :
    Watched context (program.watchedEmission target group write context world).2 := by
  have hstart : Watched context ({ context, world := (world, []) } : Stage (W × List EmitEvent)) :=
    ⟨(after_nil context).symm, coherent_nil context⟩
  cases h : program.skipsEmit with
  | true =>
    rw [watchedEmission_of_skips target group write context world h]
    exact hstart
  | false =>
    obtain ⟨passages, -, -, -, hdoes⟩ := watchedEmission_does target group write context world h
    exact hdoes.watched hstart

variable {program} in
theorem emitEvents_of_skips (h : program.skipsEmit = true) :
    program.emitEvents target group write context world = [] := by
  rw [emitEvents, watchedEmission_of_skips target group write context world h]

/-- The events are those of an emission that calls every factory of the group and then takes
the files, in order, through every transformer. -/
def RunsThrough (events : List EmitEvent) : Prop :=
  ∃ passages : List Passage, passages.map Passage.source = program.emittedSources target ∧
    (∀ p ∈ passages, p.Fits group program.options) ∧
    events.map EmitEvent.action =
      group.calls ++ passages.flatMap fun p => p.actions program.options

variable {program} in
theorem emitEvents_runsThrough (h : program.skipsEmit = false) :
    program.RunsThrough target group (program.emitEvents target group write context world) := by
  obtain ⟨passages, -, hsources, hfits, hdoes⟩ :=
    watchedEmission_does target group write context world h
  exact ⟨passages, hsources, hfits, hdoes.actions⟩

/-- An emission is skipped, and nothing is seen of it, or it runs through. -/
theorem emitEvents_cases :
    (program.skipsEmit = true ∧ program.emitEvents target group write context world = []) ∨
    (program.skipsEmit = false ∧
      program.RunsThrough target group (program.emitEvents target group write context world)) := by
  cases h : program.skipsEmit with
  | true => exact .inl ⟨rfl, emitEvents_of_skips target group write context world h⟩
  | false => exact .inr ⟨rfl, emitEvents_runsThrough target group write context world h⟩

/-- The outputs that an emission comes to are those that it writes. -/
theorem emitOutputs_written :
    ((program.emitOutputs target group write).run { context, world }).1.2 =
      writtenBy ((program.emitEvents target group write context world).map EmitEvent.action) := by
  rw [emitOutputs_watched]
  cases h : program.skipsEmit with
  | true =>
    rw [emitEvents, watchedEmission_of_skips target group write context world h]
    rfl
  | false =>
    obtain ⟨passages, hrun, -, -, hdoes⟩ := watchedEmission_does target group write context world h
    rw [emitEvents, show List.map _ _ = _ from hdoes.actions, writtenBy_append, writtenBy_append,
      writtenBy_calls, writtenBy_passages]
    exact congrArg Prod.snd hrun

/-- The result of an emission: whether it was skipped, the program's own diagnostics, and the
names that were written. -/
theorem emitOutputs_result :
    ((program.emitOutputs target group write).run { context, world }).1.1 =
      ⟨program.skipsEmit, program.diagnostics,
        (writtenBy ((program.emitEvents target group write context world).map
          EmitEvent.action)).map Output.name⟩ := by
  rw [← emitOutputs_written, emitOutputs_watched]
  cases h : program.skipsEmit with
  | true =>
    rw [watchedEmission_of_skips target group write context world h]
    rfl
  | false =>
    obtain ⟨passages, hrun, -, -, -⟩ := watchedEmission_does target group write context world h
    rw [hrun]

/-- After an emission the context has what was reported in it. -/
theorem emitOutputs_context :
    ((program.emitOutputs target group write).run { context, world }).2.context =
      context.after (program.emitEvents target group write context world) := by
  rw [emitOutputs_watched]
  exact (program.watched_watchedEmission target group write context world).context

/-- An emission in a context of its own returns what was reported in it, and nothing else. -/
theorem emit_eq : program.emit target group write world =
    let events := program.emitEvents target group write program.newContext world
    (⟨program.skipsEmit, program.diagnostics,
        (writtenBy (events.map EmitEvent.action)).map Output.name⟩,
      reportedIn events,
      (program.watchedEmission target group write program.newContext world).2.world.1) := by
  have herased := emitOutputs_watched program target group write program.newContext world
  have hresult := program.emitOutputs_result target group write program.newContext world
  have hcontext := program.emitOutputs_context target group write program.newContext world
  refine Prod.ext hresult (Prod.ext ?_ ?_)
  · exact congrArg TransformationContext.diagnostics hcontext
  · exact congrArg (fun run => run.2.world) herased

/-- What decides whether a program is emitted: its options, and its own diagnostics. -/
theorem skipsEmit_iff : program.skipsEmit = true ↔ program.options.noEmit = some true ∨
    (program.options.noEmitOnError = some true ∧ program.diagnostics ≠ []) := by
  simp [skipsEmit]

end Program

/-- **The trace of an emission.** Whatever the transformers, the writer, the context and the
world, the emission of all files comes to what its watched run comes to, where everything
that was called and written is on record, and where each call saw the context with all that
was reported before it. If the emission is skipped, as two options and the program's own
diagnostics decide, nothing is on record. Otherwise every factory was called once, phase by
phase, before anything else, and then the files that do not only hold declarations went their
way in order: through all `before` transformers, under the name of its script through all
`after` transformers, into an output, and, where declarations are asked for, under the name of
its declarations through all `afterDeclarations` transformers into another. The names of
outputs come from the name of the source file, the emitted files are the names that were
written, and an output ends in one line feed in place of all white space. -/
theorem emission_trace (program : Program) (group : TransformerGroup W) (write : Writer W)
    (context : TransformationContext) (world : W) :
    let run := (program.emitOutputs none group write).run { context, world }
    let watched := program.watchedEmission none group write context world
    let events := program.emitEvents none group write context world
    run = (watched.1, { context := watched.2.context, world := watched.2.world.1 }) ∧
    run.2.context = context.after events ∧ Coherent context events ∧
    run.1.1.diagnostics = program.diagnostics ∧
    run.1.1.emittedFiles = (writtenBy (events.map EmitEvent.action)).map Output.name ∧
    (run.1.1.skipped = true ↔ program.options.noEmit = some true ∨
      (program.options.noEmitOnError = some true ∧ program.diagnostics ≠ [])) ∧
    ((run.1.1.skipped = true ∧ events = []) ∨
      (run.1.1.skipped = false ∧ ∃ passages : List Passage,
        passages.map Passage.source = program.files.filter (fun file => !file.isDeclaration) ∧
        (∀ p ∈ passages, p.Fits group program.options) ∧
        events.map EmitEvent.action =
          group.calls ++ passages.flatMap fun p => p.actions program.options)) ∧
    ∀ file : SourceFile, file.PrintsAs (.ofFile file) := by
  intro run watched events
  have herased : run = (watched.1, { context := watched.2.context, world := watched.2.world.1 }) :=
    emitOutputs_watched program none group write context world
  have hwatched : Watched context watched.2 :=
    program.watched_watchedEmission none group write context world
  have hresult : run.1.1 = ⟨program.skipsEmit, program.diagnostics,
      (writtenBy (events.map EmitEvent.action)).map Output.name⟩ :=
    program.emitOutputs_result none group write context world
  refine ⟨herased, ?_, hwatched.coherent, congrArg EmitResult.diagnostics hresult,
    congrArg EmitResult.emittedFiles hresult, ?_, ?_, printsAs_ofFile⟩
  · exact program.emitOutputs_context none group write context world
  · rw [hresult]
    exact program.skipsEmit_iff
  · rw [hresult]
    exact program.emitEvents_cases none group write context world

end TransformerEngine
