import TransformerEngine.Proofs.Lineage.FailedInvocation

/-!
# Failures that surface

An invocation that fails below others comes back to them as the error of a derivation, and
each of them decides what to do about it. If all of them pass it on, the whole run comes to
what the innermost invocation failed with (`failure_surfaces`).

Who is to decide is said by `Moment.Underway`: a moment of a run together with the
derivations that are waited for at it, the innermost first. An error at the moment becomes
an error of the run one step at a time, from the last one back to the first. A step within
an invocation hands the error back as it is, and a derivation hands it to the script that
asked for it (`Moment.Leads.surfaces`).
-/

namespace TransformerEngine

variable {W : Type} {transforms : List (ResolvedTransform W)}

/-! ### Derivations that are waited for -/

/-- A derivation that a script waits for. -/
structure Derivation (W : Type) where
  /-- Whose script it is. -/
  invocation : Invocation
  /-- How the script goes on with what the derivation comes to. -/
  next : Except PluginError Program → Script W Program

/-- If the derivation fails with `error`, the script fails with it, too. -/
def Derivation.PassesOn (d : Derivation W) (error : PluginError) : Prop :=
  d.next (.error error) = .fail error.toFailure

/-- A script that derives by `deriveOrFail` passes on every error, whatever it would have
done with the derived program. -/
theorem Derivation.passesOn_deriveOrFail (invocation : Invocation) (roots : List String)
    (f : Program → Script W Program) :
    ∃ next, (Script.deriveOrFail roots).bind f = .derive roots next ∧
      ∀ error, Derivation.PassesOn ⟨invocation, next⟩ error :=
  ⟨_, rfl, fun _ => rfl⟩

/-- The derivation, if the step from the first moment to the second begins one. -/
def Moment.awaited : Moment W → Moment W → List (Derivation W)
  | (.follow invocation (.derive _ next) _, _), (.apply _ _, _) => [⟨invocation, next⟩]
  | _, _ => []

/-- The second moment comes up in the course of what is to be done at `start`, while the
derivations of the list are waited for, the innermost first. -/
inductive Moment.Underway (transforms : List (ResolvedTransform W)) (start : Moment W) :
    List (Derivation W) → Moment W → Prop where
  | start : Underway transforms start [] start
  | step {pending a b} (before : Underway transforms start pending a)
    (hstep : Moment.Leads transforms a b) :
    Underway transforms start (Moment.awaited a b ++ pending) b

/-- Every moment of a run has its derivations that are waited for. -/
theorem Moment.reaches_iff_underway {start moment : Moment W} :
    Moment.Reaches transforms start moment ↔
      ∃ pending, Moment.Underway transforms start pending moment := by
  constructor
  · intro h
    induction h with
    | refl => exact ⟨[], .start⟩
    | tail _ hstep ih => exact ih.elim fun pending h => ⟨_, h.step hstep⟩
  · rintro ⟨pending, h⟩
    induction h with
    | start => exact .refl
    | step _ hstep ih => exact ih.tail hstep

/-! ### They are those of the running invocations -/

/-- The invocation whose script is to be followed. -/
def Task.running : Task W → List Invocation
  | apply _ _ => []
  | follow invocation _ _ => [invocation]

/-- What happened between the two states takes one stack of running invocations to the
other. -/
def Restacks (start now : RunState W) (stack after : List Invocation) : Prop :=
  ∃ events, now.journal = start.journal ++ events ∧ Stacked stack events after

namespace Restacks

variable {start middle now : RunState W} {stack between after : List Invocation}

theorem quiet (h : now.journal = start.journal) : Restacks start now stack stack :=
  ⟨[], h.trans (List.append_nil _).symm, .nil _⟩

theorem trans (first : Restacks start middle stack between)
    (last : Restacks middle now between after) : Restacks start now stack after := by
  obtain ⟨events, hmiddle, hevents⟩ := first
  obtain ⟨later, hnow, hlater⟩ := last
  exact ⟨events ++ later, by rw [hnow, hmiddle, List.append_assoc], hevents.append hlater⟩

theorem begins (invocation : Invocation) :
    Restacks start (start.note (.began invocation)) stack (invocation :: stack) :=
  ⟨[.began invocation], rfl, .begins invocation (.nil _)⟩

/-- The invocation on top has done something that is neither its beginning nor its end. -/
theorem acts (e : RunEvent) (hb : e.beginning? = none) (he : e.ending? = none)
    (h : now.journal = start.journal ++ [e]) :
    Restacks start now (e.invocation :: stack) (e.invocation :: stack) :=
  ⟨[e], h, .act e hb he⟩

theorem running_eq (h : Restacks start now [] stack) : running (happened start now) = stack := by
  obtain ⟨events, hnow, hevents⟩ := h
  rw [happened_eq hnow, running, hevents.foldl_restack]

end Restacks

/-- Nothing of a finished application is left running. -/
theorem Finishes.restacks_of_apply {remaining : List (ResolvedTransform W)} {program : Program}
    {state : RunState W} {answer : Except PluginError Program × RunState W}
    (h : Finishes transforms (.apply remaining program) state answer) (stack : List Invocation) :
    Restacks state answer.2 stack stack := by
  obtain ⟨events, hjournal, hevents⟩ :=
    applyAll_nests (applyWithin_nests transforms transforms.length) remaining program state
  rw [← h.outcome_eq]
  exact ⟨events, hjournal, hevents stack⟩

/-- Nothing of a finished invocation is left running. -/
theorem Finishes.restacks_of_invoked {transform : ProgramTransform W} {invocation : Invocation}
    {state : RunState W} {answer : Except PluginError Program × RunState W}
    (h : Finishes transforms (.follow invocation (transform invocation) [])
      (state.note (.began invocation)) answer) (stack : List Invocation) :
    Restacks state answer.2 stack stack := by
  obtain ⟨events, hjournal, hevents⟩ := invoke_nests
    (applyWithin_nests transforms transforms.length) transform invocation state
  have hsame : answer.2 = (invoke (applyTransforms transforms) transform invocation state).2 := by
    rw [← h.outcome_eq, Task.outcome]
    rcases invoke_cases (applyTransforms transforms) transform invocation state with
      ⟨_, _, _, heq, hinv⟩ | ⟨_, _, heq, hinv⟩
    · rw [heq, hinv, conclude]
    · rw [heq, hinv, conclude]
  exact ⟨events, hsame ▸ hjournal, hevents stack⟩

/-- A step puts on the stack what it leads into, under which stands what it waits for. -/
theorem Moment.Leads.restacks {a b : Moment W} (h : Moment.Leads transforms a b)
    (stack : List Invocation) :
    Restacks a.2 b.2 (a.1.running ++ stack)
      (b.1.running ++ ((Moment.awaited a b).map Derivation.invocation ++ stack)) := by
  cases h with
  | passes | builds | looksAtFiles | readsWorld | writesWorld => exact .quiet rfl
  | invokes => exact .begins _
  | handsOn hnew hv inner => exact inner.restacks_of_invoked stack
  | addsFile => exact .acts (.addedFile _ _ _) rfl rfl rfl
  | reports => exact .acts (.reported _ _) rfl rfl rfl
  | asksOrigin => exact .acts (.askedOrigin _ _) rfl rfl rfl
  | derives => exact .acts (.derived _ _) rfl rfl (RunState.derive_journal ..)
  | @resumes invocation roots next reports state result middle inner =>
    have hderived : Restacks state (state.derive invocation roots).2
        (invocation :: stack) (invocation :: stack) :=
      .acts (.derived invocation _) rfl rfl (RunState.derive_journal ..)
    exact hderived.trans (inner.restacks_of_apply (invocation :: stack))

/-- **What is waited for was asked for by what is running.** -/
theorem Moment.Underway.restacks {start moment : Moment W} {pending : List (Derivation W)}
    (h : Moment.Underway transforms start pending moment) :
    Restacks start.2 moment.2 start.1.running
      (moment.1.running ++ pending.map Derivation.invocation) := by
  induction h with
  | start =>
    rw [List.map_nil, List.append_nil]
    exact .quiet rfl
  | step _ hstep ih =>
    rw [List.map_append]
    exact ih.trans (hstep.restacks _)

/-! ### Errors on their way back -/

/-- The state after the invocations have failed, one after the other. -/
def RunState.unwind (state : RunState W) (failure : Failure) (stack : List Invocation) :
    RunState W :=
  stack.foldl (fun now invocation => now.note (.failed invocation failure)) state

namespace RunState

variable (state : RunState W) (failure : Failure)

theorem unwind_unwind (stack below : List Invocation) :
    (state.unwind failure stack).unwind failure below =
      state.unwind failure (stack ++ below) :=
  List.foldl_append.symm

/-- Nothing but the journal is changed. -/
theorem unwind_eq (stack : List Invocation) :
    state.unwind failure stack =
      { state with journal := state.journal ++ stack.map (RunEvent.failed · failure) } := by
  induction stack generalizing state with
  | nil => rw [List.map_nil, List.append_nil]; rfl
  | cons invocation stack ih =>
    rw [List.map_cons, List.append_cons]
    exact ih (state.note (.failed invocation failure))

/-- Nothing begins while invocations fail. -/
theorem begun_unwind (stack : List Invocation) :
    begun (happened state (state.unwind failure stack)) = [] := by
  have hjournal := congrArg RunState.journal (state.unwind_eq failure stack)
  rw [happened_eq hjournal, begun, List.filterMap_eq_nil_iff]
  intro e he
  obtain ⟨invocation, -, rfl⟩ := List.mem_map.mp he
  rfl

end RunState

/-- **One step back.** If a moment comes to a failure, so does the one that leads to it. If
a derivation was begun in between, the invocation that asked for it has failed, too. -/
theorem Moment.Leads.surfaces {a b : Moment W} (h : Moment.Leads transforms a b)
    {failure : Failure} {final : RunState W}
    (passedOn : ∀ d ∈ Moment.awaited a b, d.PassesOn (.transformer failure))
    (hb : Finishes transforms b.1 b.2 (.error (.transformer failure), final)) :
    Finishes transforms a.1 a.2 (.error (.transformer failure),
      final.unwind failure ((Moment.awaited a b).map Derivation.invocation)) := by
  cases h with
  | passes h => exact .passes h hb
  | invokes hnew hv => exact .stops hnew hv hb
  | handsOn hnew hv inner => exact .invokes hnew hv inner hb
  | addsFile => exact .addsFile hb
  | reports => exact .reports hb
  | asksOrigin => exact .asksOrigin hb
  | @derives invocation roots next reports state =>
    -- what the derivation fails with, the script is given and fails with
    have hnext : next (.error (.transformer failure)) = .fail failure :=
      passedOn ⟨invocation, next⟩ (List.mem_singleton_self _)
    refine .derives hb ?_
    rw [hnext]
    exact .fails invocation failure reports final
  | resumes inner => exact .derives inner hb
  | builds => exact .builds hb
  | looksAtFiles => exact .looksAtFiles hb
  | readsWorld => exact .readsWorld hb
  | writesWorld => exact .writesWorld hb

/-- **All the way back.** If a moment comes to a failure that all who wait pass on, so does
the moment that the course started from. -/
theorem Moment.Underway.surfaces {start moment : Moment W} {pending : List (Derivation W)}
    (h : Moment.Underway transforms start pending moment) {failure : Failure}
    {final : RunState W} (passedOn : ∀ d ∈ pending, d.PassesOn (.transformer failure))
    (hfails : Finishes transforms moment.1 moment.2 (.error (.transformer failure), final)) :
    Finishes transforms start.1 start.2 (.error (.transformer failure),
      final.unwind failure (pending.map Derivation.invocation)) := by
  induction h generalizing final with
  | start => exact hfails
  | step _ hstep ih =>
    obtain ⟨hown, hbelow⟩ := List.forall_mem_append.mp passedOn
    have hback := ih hbelow (hstep.surfaces hown hfails)
    rwa [RunState.unwind_unwind, ← List.map_append] at hback

/-- **Failures surface as they are.** Wherever in a run an invocation fails, however many
derivations are waited for at that moment: if every script that waits passes the failure
on, the run comes to the very same failure, with its message and its causes, and the error
is about no module. The invocations that were running fail with it one after the other,
from the innermost to the outermost, and that is all that happens: none begins after the
failure, and nothing but the journal is changed. -/
theorem failure_surfaces {program : Program} {state now : RunState W}
    {pending : List (Derivation W)} {invocation : Invocation} {failure : Failure}
    {reports : List Diagnostic}
    (moment : Moment.Underway transforms (.apply transforms program, state) pending
      (.follow invocation (.fail failure) reports, now))
    (passedOn : ∀ d ∈ pending, d.PassesOn (.transformer failure)) :
    running (happened state now) = invocation :: pending.map Derivation.invocation ∧
    ∃ error final, applyTransforms transforms program state = (.error error, final) ∧
      error = .transformer failure ∧ error.message = failure.message ∧
      error.causes = failure.causes ∧ error.module? = none ∧
      final = now.unwind failure (running (happened state now)) ∧
      begun (happened now final) = [] := by
  have hrunning : running (happened state now) =
      invocation :: pending.map Derivation.invocation := moment.restacks.running_eq
  have hfails : Finishes transforms (.follow invocation (.fail failure) reports) now
      (.error (.transformer failure), now.unwind failure [invocation]) :=
    .fails invocation failure reports now
  have hrun := finishes_iff.mp (moment.surfaces passedOn hfails)
  rw [Task.outcome, ← applyTransforms_eq, RunState.unwind_unwind] at hrun
  refine ⟨hrunning, _, _, hrun, rfl, rfl, rfl, rfl, ?_, ?_⟩
  · rw [hrunning]
    rfl
  · exact now.begun_unwind failure _

/-! Two transforms that derive programs and pass on what becomes of them, and one that
refuses what it is given. -/

namespace Sample

/-- Derives a program and returns what becomes of it, or fails as that does. -/
def relay (module root : String) : ResolvedTransform Unit :=
  .ofScript module fun _ => .deriveOrFail [root]

def upper : ResolvedTransform Unit := relay "upper" "a.ts"

def lower : ResolvedTransform Unit := relay "lower" "b.ts"

def refusal : Failure := ⟨"refusing to transform", ["read-only", "disk is full"]⟩

/-- Reports and then refuses. -/
def refuse : ResolvedTransform Unit :=
  .ofScript "refuse" fun _ => .report (.error 3 "cannot write") (.fail refusal)

def relays : List (ResolvedTransform Unit) := [upper, lower, refuse, remark]

/-- What `upper` derives. -/
def outer : Program × RunState Unit :=
  (opening.note (.began (upper.invocationOn seed))).derive (upper.invocationOn seed) ["a.ts"]

/-- What `lower` derives from it. -/
def inner : Program × RunState Unit :=
  (outer.2.note (.began (lower.invocationOn outer.1))).derive (lower.invocationOn outer.1) ["b.ts"]

/-- The state in which `refuse` fails on that. -/
def refusing : RunState Unit :=
  (inner.2.note (.began (refuse.invocationOn inner.1))).note
    (.reported (refuse.invocationOn inner.1) (.error 3 "cannot write"))

/-- How a relay goes on. -/
def relayed : Except PluginError Program → Script Unit Program
  | .ok program => .done program
  | .error error => .fail error.toFailure

/-- What is waited for when `refuse` fails. -/
def relaying : List (Derivation Unit) :=
  [⟨lower.invocationOn outer.1, relayed⟩, ⟨upper.invocationOn seed, relayed⟩]

end Sample

/-- Here `refuse` fails while `lower` is running within `upper`. Both have their derivation
fail with what `refuse` said, and neither `remark` nor any of the others is invoked again. -/
theorem failure_surfaces_sample :
    Moment.Underway Sample.relays (.apply Sample.relays Sample.seed, Sample.opening)
      Sample.relaying (.follow (Sample.refuse.invocationOn Sample.inner.1) (.fail Sample.refusal)
        [.error 3 "cannot write"], Sample.refusing) ∧
    (∀ d ∈ Sample.relaying, d.PassesOn (.transformer Sample.refusal)) ∧
    running (happened Sample.opening Sample.refusing) =
      [Sample.refuse.invocationOn Sample.inner.1, Sample.lower.invocationOn Sample.outer.1,
        Sample.upper.invocationOn Sample.seed] ∧
    ∃ final, applyTransforms Sample.relays Sample.seed Sample.opening =
        (.error (.transformer Sample.refusal), final) ∧
      begun (happened Sample.refusing final) = [] := by
  -- down to `refuse`, past the relays that the derived programs have been through
  have hstart : Moment.Underway Sample.relays (.apply Sample.relays Sample.seed, Sample.opening)
      [] (.apply Sample.relays Sample.seed, Sample.opening) := .start
  have houter := (hstart.step (.invokes (by decide) rfl)).step .derives
  have hinner := ((houter.step (.passes (.inl (by decide)))).step (.invokes (by decide) rfl)).step
    .derives
  have hrefuse := (hinner.step (.passes (.inl (by decide)))).step (.passes (.inl (by decide)))
  have hmoment : Moment.Underway Sample.relays
      (.apply Sample.relays Sample.seed, Sample.opening) Sample.relaying
      (.follow (Sample.refuse.invocationOn Sample.inner.1) (.fail Sample.refusal)
        [.error 3 "cannot write"], Sample.refusing) :=
    (hrefuse.step (.invokes (by decide) rfl)).step .reports
  have hpassed : ∀ d ∈ Sample.relaying, d.PassesOn (.transformer Sample.refusal) :=
    List.forall_mem_cons.mpr ⟨rfl, List.forall_mem_singleton.mpr rfl⟩
  obtain ⟨hrunning, error, final, hrun, rfl, -, -, -, -, hnone⟩ :=
    failure_surfaces hmoment hpassed
  exact ⟨hmoment, hpassed, hrunning, final, hrun, hnone⟩

end TransformerEngine
