import TransformerEngine.Proofs.Lineage.Course

/-!
# Invocations that fail

An invocation that fails may have derived programs, and other transforms may have worked
on them, returned and reported. All of that concerns programs that were made since the
invocation began. The entries of those that there were before are what they were
(`failed_invocation_leaves_no_mark`).

What the invocation itself reported is not in the lineages at all. To say so without
looking for it, the invocation is compared to the one that takes the same steps and
reports nothing (`Script.silenced`): both leave the same state behind, the journal apart
(`Finishes.silenced`), and what is in the journal makes no difference to what happens
next (`Finishes.rejournal`).
-/

namespace TransformerEngine

variable {W : Type} {transforms : List (ResolvedTransform W)}

/-! ### What the loop has passed -/

/-- How the run of a script ends that is followed to its end. -/
theorem Finishes.run_cases {invocation : Invocation} {script : Script W Program}
    {reports : List Diagnostic} {state final : RunState W} {result : Except PluginError Program}
    (h : Finishes transforms (.follow invocation script reports) state (result, final)) :
    (∃ output reported now,
      script.run (applyTransforms transforms) invocation reports state =
        (.ok (output, reported), now) ∧
      result = .ok output ∧ final = now.settle invocation output reported) ∨
    (∃ failure now,
      script.run (applyTransforms transforms) invocation reports state = (.error failure, now) ∧
      result = .error (.transformer failure) ∧ final = now.note (.failed invocation failure)) := by
  have houtcome := finishes_iff.mp h
  rw [Task.outcome] at houtcome
  generalize script.run (applyTransforms transforms) invocation reports state = answer at houtcome
  obtain ⟨failure | ⟨output, reported⟩, now⟩ := answer
  · obtain ⟨rfl, rfl⟩ := Prod.mk.inj houtcome
    exact .inr ⟨failure, now, rfl, rfl, rfl⟩
  · obtain ⟨rfl, rfl⟩ := Prod.mk.inj houtcome
    exact .inl ⟨output, reported, now, rfl, rfl, rfl⟩

/-- What is handed on has been through the transform that returned it and through all that
its input had been through. -/
theorem Finishes.mem_applied {transform : ProgramTransform W} {invocation : Invocation}
    {state middle : RunState W} {output : Program}
    (h : Finishes transforms (.follow invocation (transform invocation) [])
      (state.note (.began invocation)) (.ok output, middle)) {i : TransformIdentity}
    (hi : i ∈ state.lineage.applied invocation.input.id ∨ i = invocation.identity) :
    i ∈ middle.lineage.applied output.id := by
  rcases h.run_cases with ⟨output', reported, now, hrun, hout, rfl⟩ | ⟨_, _, _, hout, _⟩
  · obtain rfl := Except.ok.inj hout
    have hinvoke : invoke (applyTransforms transforms) transform invocation state =
        (.ok output, now.settle invocation output reported) := by
      rw [invoke, hrun]
      rfl
    exact mem_applied_of_invoke (applyWithin_grows transforms transforms.length) hinvoke hi
  · cases hout

/-- Those of the transforms that do not remain were applied along the line of the program,
or are none of whole programs. -/
def Moment.PassedBy (transforms : List (ResolvedTransform W)) : Moment W → Prop
  | (.apply remaining program, state) => ∃ before, transforms = before ++ remaining ∧
      ∀ t ∈ before, t.identity ∈ state.lineage.applied program.id ∨
        ∀ transform, t.value ≠ .program transform
  | (.follow _ _ _, _) => True

theorem Moment.Leads.passedBy {a b : Moment W} (h : Moment.Leads transforms a b)
    (hpassed : a.PassedBy transforms) : b.PassedBy transforms := by
  cases h with
  | @passes t rest program state h =>
    obtain ⟨before, heq, hbefore⟩ := hpassed
    refine ⟨before ++ [t], heq.trans (List.append_cons ..), ?_⟩
    exact List.forall_mem_append.mpr ⟨hbefore, List.forall_mem_singleton.mpr h⟩
  | @handsOn t rest program state transform output middle hnew hv inner =>
    obtain ⟨before, heq, hbefore⟩ := hpassed
    refine ⟨before ++ [t], heq.trans (List.append_cons ..), ?_⟩
    refine List.forall_mem_append.mpr ⟨fun t' ht' => ?_, List.forall_mem_singleton.mpr (.inl ?_)⟩
    · exact (hbefore t' ht').imp_left fun happlied => inner.mem_applied (.inl happlied)
    · exact inner.mem_applied (.inr rfl)
  | derives => exact ⟨[], rfl, fun _ ht => absurd ht List.not_mem_nil⟩
  | invokes => trivial
  | addsFile | reports | asksOrigin | resumes | builds | looksAtFiles | readsWorld
  | writesWorld => trivial

theorem Moment.Reaches.passedBy {a b : Moment W} (h : Moment.Reaches transforms a b)
    (hpassed : a.PassedBy transforms) : b.PassedBy transforms := by
  induction h with
  | refl => exact hpassed
  | tail _ hstep ih => exact hstep.passedBy ih

/-- The loop passes over what was applied already, and over what is no transform of whole
programs. -/
theorem applyAll_append_of_passed (nested : Applying W)
    {before rest : List (ResolvedTransform W)} {program : Program} {state : RunState W}
    (h : ∀ t ∈ before, t.identity ∈ state.lineage.applied program.id ∨
      ∀ transform, t.value ≠ .program transform) :
    applyAll nested (before ++ rest) program state = applyAll nested rest program state := by
  induction before with
  | nil => rfl
  | cons t before ih =>
    have hrest := ih fun t' ht' => h t' (List.mem_cons_of_mem _ ht')
    rcases h t (List.mem_cons_self ..) with happlied | hother
    · exact (applyAll_cons_of_applied happlied).trans hrest
    · exact (applyAll_cons_of_other hother).trans hrest

/-- A run that comes to a transform that is to be invoked begins with its invocation. -/
theorem happened_of_passed {t : ResolvedTransform W} {before rest : List (ResolvedTransform W)}
    {transform : ProgramTransform W} {program : Program} {state : RunState W}
    (heq : transforms = before ++ t :: rest)
    (hbefore : ∀ t ∈ before, t.identity ∈ state.lineage.applied program.id ∨
      ∀ transform, t.value ≠ .program transform)
    (hnew : t.identity ∉ state.lineage.applied program.id) (hv : t.value = .program transform) :
    ∃ later, happened state (applyTransforms transforms program state).2 =
      .began (t.invocationOn program) :: later := by
  have hrun : applyTransforms transforms program state =
      applyAll (applyTransforms transforms) (t :: rest) program state := by
    calc applyTransforms transforms program state
        = applyAll (applyTransforms transforms) transforms program state := applyTransforms_eq ..
      _ = applyAll (applyTransforms transforms) (before ++ t :: rest) program state :=
          congrArg (applyAll (applyTransforms transforms) · program state) heq
      _ = applyAll (applyTransforms transforms) (t :: rest) program state :=
          applyAll_append_of_passed _ hbefore
  have hfinishes : Finishes transforms (.apply (t :: rest) program) state
      (applyTransforms transforms program state) := by
    rw [finishes_iff, Task.outcome, hrun]
  have hbegan : (state.note (.began (t.invocationOn program))).journal <+:
      (applyTransforms transforms program state).2.journal := by
    generalize applyTransforms transforms program state = answer at hfinishes
    cases hfinishes with
    | passes h later => exact absurd h (not_or.mpr ⟨hnew, fun hother => hother transform hv⟩)
    | invokes hnew' hv' inner later =>
      exact inner.journal_prefix.trans later.journal_prefix
    | stops hnew' hv' inner => exact inner.journal_prefix
  obtain ⟨later, hlater⟩ := hbegan
  exact ⟨later, happened_eq (hlater.symm.trans (List.append_assoc ..))⟩

/-! ### What was there before -/

/-- What happens until an invocation fails is inside it, so all programs that were made
before have their entries from before. -/
theorem Finishes.find?_of_error (stays : ∀ t ∈ transforms, t.StaysOnLine)
    {transform : ProgramTransform W} {invocation : Invocation} {state final : RunState W}
    {error : PluginError} (hnum : state.Numbered) (hinput : state.Made invocation.input.id)
    (h : Finishes transforms (.follow invocation (transform invocation) [])
      (state.note (.began invocation)) (.error error, final)) {id : ProgramId}
    (hid : state.Made id) : final.lineage.find? id = state.lineage.find? id := by
  have hstart : Knowledge (transforms.map ResolvedTransform.identity) invocation
      (state.note (.began invocation)) [] [] [] (state.note (.began invocation)) :=
    ⟨.refl hnum, rfl, fun _ hp => absurd hp List.not_mem_nil⟩
  have hmade : (state.note (.began invocation)).Made invocation.input.id := hinput
  obtain ⟨_, _, ⟨events, hknowledge⟩, -⟩ :=
    (knowledge_invariant hmade fun child now hnum hmade _ =>
      applyTransforms_outcome stays hnum hmade).run (transform invocation) [] [] ⟨[], hstart⟩
  rcases h.run_cases with ⟨_, _, _, -, hresult, -⟩ | ⟨failure, now, hrun, -, rfl⟩
  · exact nomatch hresult
  · rw [hrun] at hknowledge
    exact hknowledge.within.entries id hid

/-! ### What is not recorded -/

/-- The journal makes no difference to what a task comes to. -/
theorem Finishes.rejournal {task : Task W} {state : RunState W}
    {answer : Except PluginError Program × RunState W} (h : Finishes transforms task state answer)
    (journal : List RunEvent) :
    ∃ journal', Finishes transforms task { state with journal }
      (answer.1, { answer.2 with journal := journal' }) := by
  induction h generalizing journal with
  | applied program state => exact ⟨_, .applied program _⟩
  | passes h later ih => exact (ih journal).imp fun _ hlater => .passes h hlater
  | invokes hnew hv inner later ihInner ihLater =>
    obtain ⟨between, hinner⟩ := ihInner (journal ++ [.began _])
    exact (ihLater between).imp fun _ hlater => .invokes hnew hv hinner hlater
  | stops hnew hv inner ih =>
    obtain ⟨after, hinner⟩ := ih (journal ++ [.began _])
    exact ⟨after, .stops hnew hv hinner⟩
  | returns invocation output reports state => exact ⟨_, .returns invocation output reports _⟩
  | fails invocation failure reports state => exact ⟨_, .fails invocation failure reports _⟩
  | addsFile later ih => exact (ih (journal ++ [_])).imp fun _ hlater => .addsFile hlater
  | reports later ih => exact (ih (journal ++ [_])).imp fun _ hlater => .reports hlater
  | asksOrigin later ih => exact (ih (journal ++ [_])).imp fun _ hlater => .asksOrigin hlater
  | derives inner later ihInner ihLater =>
    obtain ⟨between, hinner⟩ := ihInner (journal ++ [_])
    exact (ihLater between).imp fun _ hlater => .derives hinner hlater
  | builds later ih => exact (ih journal).imp fun _ hlater => .builds hlater
  | looksAtFiles later ih => exact (ih journal).imp fun _ hlater => .looksAtFiles hlater
  | readsWorld later ih => exact (ih journal).imp fun _ hlater => .readsWorld hlater
  | writesWorld later ih => exact (ih journal).imp fun _ hlater => .writesWorld hlater

/-- The script without its reports. -/
def Script.silenced {α : Type} : Script W α → Script W α
  | done value => done value
  | fail failure => fail failure
  | addFile name text next => addFile name text next.silenced
  | report _ next => next.silenced
  | originRoots next => originRoots fun roots => (next roots).silenced
  | derive roots next => derive roots fun result => (next result).silenced
  | build roots options next => build roots options fun program => (next program).silenced
  | files next => files fun host => (next host).silenced
  | readWorld next => readWorld fun world => (next world).silenced
  | writeWorld world next => writeWorld world next.silenced

/-- **A script that fails has reported in vain.** Without its reports it fails in the same
way, and leaves the same behind. -/
theorem Finishes.silenced {invocation : Invocation} {script : Script W Program}
    {reports : List Diagnostic} {state final : RunState W} {error : PluginError}
    (h : Finishes transforms (.follow invocation script reports) state (.error error, final))
    (journal : List RunEvent) :
    ∃ journal', Finishes transforms (.follow invocation script.silenced [])
      { state with journal } (.error error, { final with journal := journal' }) := by
  induction script generalizing state reports journal with
  | done output => exact nomatch h
  | fail failure =>
    cases h with
    | fails => exact ⟨_, .fails invocation failure [] _⟩
  | addFile name text next ih =>
    cases h with
    | addsFile later => exact (ih later (journal ++ [_])).imp fun _ hlater => .addsFile hlater
  | report d next ih =>
    cases h with
    | reports later => exact ih later journal
  | originRoots next ih =>
    cases h with
    | asksOrigin later =>
      exact (ih _ later (journal ++ [_])).imp fun _ hlater => .asksOrigin hlater
  | derive roots next ih =>
    cases h with
    | derives inner later =>
      -- what is derived goes through the same, whatever the journal has
      obtain ⟨between, hinner⟩ := inner.rejournal (journal ++ [_])
      exact (ih _ later between).imp fun _ hlater => .derives hinner hlater
  | build roots options next ih =>
    cases h with
    | builds later => exact (ih _ later journal).imp fun _ hlater => .builds hlater
  | files next ih =>
    cases h with
    | looksAtFiles later => exact (ih _ later journal).imp fun _ hlater => .looksAtFiles hlater
  | readWorld next ih =>
    cases h with
    | readsWorld later => exact (ih _ later journal).imp fun _ hlater => .readsWorld hlater
  | writeWorld world next ih =>
    cases h with
    | writesWorld later => exact (ih later journal).imp fun _ hlater => .writesWorld hlater

/-! ### Failed invocations -/

/-- **A failed invocation leaves no mark.** Wherever in a run `t` is invoked on a program
`working`, in the state `start`, if it fails then every program that there was in `start`
has the entry that it had. So `t` is not recorded for `working`, and when the transforms
are applied to `working` again, `t` is invoked first. What the invocation reported is
recorded nowhere: had it reported nothing, it would have failed in the same way and left
the same behind, the journal apart, and whatever is done next would come to the same. -/
theorem failed_invocation_leaves_no_mark (stays : ∀ t ∈ transforms, t.StaysOnLine)
    {program working : Program} {state start final : RunState W} (numbered : state.Numbered)
    (made : state.Made program.id) {t : ResolvedTransform W} {rest : List (ResolvedTransform W)}
    (moment : Moment.Reaches transforms (.apply transforms program, state)
      (.apply (t :: rest) working, start))
    {transform : ProgramTransform W} (value : t.value = .program transform)
    (new : t.identity ∉ start.lineage.applied working.id) {error : PluginError}
    (fails : Finishes transforms
      (.follow (t.invocationOn working) (transform (t.invocationOn working)) [])
      (start.note (.began (t.invocationOn working))) (.error error, final)) :
    (∀ id, start.Made id → final.lineage.find? id = start.lineage.find? id) ∧
    t.identity ∉ final.lineage.applied working.id ∧
    (∃ journal,
      Finishes transforms
        (.follow (t.invocationOn working) (transform (t.invocationOn working)).silenced [])
        (start.note (.began (t.invocationOn working))) (.error error, { final with journal }) ∧
      ∀ task answer, Finishes transforms task final answer →
        ∃ journal', Finishes transforms task { final with journal }
          (answer.1, { answer.2 with journal := journal' })) ∧
    ∀ later : RunState W, later.lineage.find? working.id = final.lineage.find? working.id →
      ∃ events, happened later (applyTransforms transforms working later).2 =
        .began (t.invocationOn working) :: events := by
  obtain ⟨known, ⟨hworking, -⟩, hnum, hmade⟩ :=
    numbered_knownInvariant.reaches stays moment (Task.knows_apply stays program)
      ⟨numbered, List.forall_mem_singleton.mpr made⟩
  have hentries : ∀ id, start.Made id → final.lineage.find? id = start.lineage.find? id :=
    fun id hid => fails.find?_of_error stays hnum (hmade working hworking) hid
  have hentry := hentries working.id (hmade working hworking)
  refine ⟨hentries, ?_, ?_, fun later hlater => ?_⟩
  · rwa [Lineage.applied_congr hentry]
  · obtain ⟨journal, hsilenced⟩ := fails.silenced (start.note (.began _)).journal
    exact ⟨journal, hsilenced, fun task answer h => h.rejournal journal⟩
  · -- all that stands before `t` is passed over again, and `t` is not
    have hsame := Lineage.applied_congr (hlater.trans hentry)
    obtain ⟨before, heq, hbefore⟩ :=
      moment.passedBy ⟨[], rfl, fun _ ht => absurd ht List.not_mem_nil⟩
    refine happened_of_passed heq ?_ ?_ value
    · rwa [hsame]
    · rwa [hsame]

/-! A transform that reports, derives a program and then fails, on a program that another
one has derived. -/

namespace Sample

/-- Derives a program, and lets it be if that fails. -/
def attempt : ResolvedTransform Unit :=
  .ofScript "attempt" fun invocation => .derive ["a.ts"] fun _ => .done invocation.input

/-- What `stumble` does. -/
def stumbling : ProgramTransform Unit := fun _ =>
  .report (.error 1 "half done") (.derive ["b.ts"] fun _ => .fail ⟨"stumbled", []⟩)

/-- Fails after another program was derived. -/
def stumble : ResolvedTransform Unit := .ofScript "stumble" stumbling

/-- Reports on every program. -/
def remark : ResolvedTransform Unit := .ofScript "remark" (announce (.error 2 "seen"))

def attempts : List (ResolvedTransform Unit) := [attempt, stumble, remark]

/-- A program whose files are missing. -/
def seed : Program := ⟨⟨0⟩, ["main.ts"], {}, Table.empty, []⟩

/-- The state in which `seed` was made and nothing else has happened. -/
def opening : RunState Unit where
  lineage := Lineage.empty
  overlay := { currentDirectory := "/" }
  nextId := ⟨1⟩
  world := ()

/-- What `attempt` derives, and the state in which it is handed to the transforms. -/
def attempted : Program × RunState Unit :=
  (opening.note (.began (attempt.invocationOn seed))).derive (attempt.invocationOn seed) ["a.ts"]

/-- The invocation of `stumble` on what `attempt` has derived. -/
def stumbles : Invocation := stumble.invocationOn attempted.1

/-- What `stumble` comes to there. -/
def stumbled : Except PluginError Program × RunState Unit :=
  (Task.follow stumbles (stumbling stumbles) []).outcome attempts (attempted.2.note (.began stumbles))

theorem attempts_stayOnLine : ∀ t ∈ attempts, t.StaysOnLine := by
  simp only [attempts, List.forall_mem_cons]
  refine ⟨⟨_, rfl, fun _ result => ?_⟩, ⟨_, rfl, fun _ _ => trivial⟩, announce_staysOnLine _ _,
    fun _ ht => absurd ht List.not_mem_nil⟩
  cases result with
  | ok program => exact List.mem_cons_of_mem _ (List.mem_singleton_self _)
  | error error => exact List.mem_singleton_self _

end Sample

/-- Here `stumble` fails while `attempt` is running, after `remark` has reported on what
`stumble` had derived. That report stays with the derived program, and no other entry is
changed. -/
theorem failed_invocation_leaves_no_mark_sample :
    Moment.Reaches Sample.attempts (.apply Sample.attempts Sample.seed, Sample.opening)
      (.apply [Sample.stumble, Sample.remark] Sample.attempted.1, Sample.attempted.2) ∧
    Sample.stumbled.1 = .error (.transformer ⟨"stumbled", []⟩) ∧
    Sample.stumbled.2.lineage.diagnostics ⟨2⟩ = [.error 2 "seen"] ∧
    (∀ id, Sample.attempted.2.Made id →
      Sample.stumbled.2.lineage.find? id = Sample.attempted.2.lineage.find? id) ∧
    Sample.stumble.identity ∉ Sample.stumbled.2.lineage.applied Sample.attempted.1.id ∧
    ∃ events, happened Sample.stumbled.2
        (applyTransforms Sample.attempts Sample.attempted.1 Sample.stumbled.2).2 =
      .began Sample.stumbles :: events := by
  have hattempt : Sample.attempt.identity ∈
      Sample.attempted.2.lineage.applied Sample.attempted.1.id := by decide
  have hnew : Sample.stumble.identity ∉
      Sample.attempted.2.lineage.applied Sample.attempted.1.id := by decide
  have hmoment : Moment.Reaches Sample.attempts (.apply Sample.attempts Sample.seed, Sample.opening)
      (.apply [Sample.stumble, Sample.remark] Sample.attempted.1, Sample.attempted.2) :=
    .head (.invokes (by decide) rfl) (.head .derives (.single (.passes (.inl hattempt))))
  have hnumbered : Sample.opening.Numbered := fun _ _ => rfl
  have hmade : Sample.opening.Made Sample.seed.id := Nat.zero_lt_one
  have hfails : Finishes Sample.attempts
      (.follow Sample.stumbles (Sample.stumbling Sample.stumbles) [])
      (Sample.attempted.2.note (.began Sample.stumbles))
      (.error (.transformer ⟨"stumbled", []⟩), Sample.stumbled.2) := finishes_iff.mpr rfl
  obtain ⟨hentries, hunapplied, -, hagain⟩ :=
    failed_invocation_leaves_no_mark Sample.attempts_stayOnLine hnumbered hmade hmoment rfl
      hnew hfails
  exact ⟨hmoment, rfl, by decide, hentries, hunapplied, hagain _ rfl⟩

end TransformerEngine
