import Mathlib.Data.List.Basic
import Mathlib.Data.List.Nodup
import Mathlib.Data.List.Perm.Basic
import TransformerEngine.Proofs.Lineage.Steps

/-!
# The journal of a run

What happened in a run is read off the journal entries that it added (`happened`). The
events of a run *nest*: invocations end in the opposite order of their beginning, and
everything else is done by the one that began last (`Stacked`, `applyWithin_nests`).
This holds of all transforms, whatever they do.

A run in which no invocation begins twice therefore splits at each event as one expects:

* an invocation begins once, and does nothing after its end
  (`Stacked.count_begun`, `Stacked.not_mem_after_end`);
* an invocation that does something while another one is running ends before the other
  one does (`Stacked.mem_ended_between`).
-/

namespace TransformerEngine

variable {W : Type}

deriving instance DecidableEq for Invocation

/-! ### Events -/

namespace RunEvent

/-- Whose event it is. -/
def invocation : RunEvent → Invocation
  | began i => i
  | askedOrigin i _ => i
  | addedFile i _ _ => i
  | reported i _ => i
  | derived i _ => i
  | returned i _ => i
  | failed i _ => i

/-- The invocation that begins with the event. -/
def beginning? : RunEvent → Option Invocation
  | began i => some i
  | _ => none

/-- The invocation that ends with the event. -/
def ending? : RunEvent → Option Invocation
  | returned i _ => some i
  | failed i _ => some i
  | _ => none

/-- The diagnostic, if the event is a report of the invocation `i`. -/
def reportBy? (i : Invocation) : RunEvent → Option Diagnostic
  | reported j d => if j = i then some d else none
  | _ => none

theorem reportBy?_eq_some {e : RunEvent} {i : Invocation} {d : Diagnostic} :
    e.reportBy? i = some d ↔ e = reported i d := by
  cases e with
  | reported j d' =>
    rw [reportBy?, Option.ite_none_right_eq_some, Option.some.injEq, reported.injEq]
  | _ => exact ⟨(nomatch ·), (nomatch ·)⟩

/-- The invocation, if the event is the return of one of `line`. -/
def returnAmong? (line : List Invocation) : RunEvent → Option Invocation
  | returned i _ => if i ∈ line then some i else none
  | _ => none

theorem returnAmong?_eq_some {e : RunEvent} {line : List Invocation} {i : Invocation} :
    e.returnAmong? line = some i ↔ i ∈ line ∧ ∃ output, e = returned i output := by
  cases e with
  | returned j output =>
    rw [returnAmong?, Option.ite_none_right_eq_some, Option.some.injEq]
    constructor
    · rintro ⟨hj, rfl⟩
      exact ⟨hj, output, rfl⟩
    · rintro ⟨hi, _, heq⟩
      obtain ⟨rfl, -⟩ := returned.inj heq
      exact ⟨hi, rfl⟩
  | _ => exact ⟨(nomatch ·), fun ⟨_, _, heq⟩ => nomatch heq⟩

theorem beginning?_of_ending? {e : RunEvent} {i : Invocation} (h : e.ending? = some i) :
    e.beginning? = none := by
  cases e <;> first | rfl | exact nomatch h

theorem invocation_of_ending? {e : RunEvent} {i : Invocation} (h : e.ending? = some i) :
    e.invocation = i := by
  cases e <;> first | exact Option.some.inj h | exact nomatch h

end RunEvent

/-- The invocations that began, in order. -/
def begun (events : List RunEvent) : List Invocation := events.filterMap RunEvent.beginning?

/-- The invocations that ended, in the order of their ends. -/
def ended (events : List RunEvent) : List Invocation := events.filterMap RunEvent.ending?

/-- What an invocation reported, in order. -/
def reportsOf (events : List RunEvent) (i : Invocation) : List Diagnostic :=
  events.filterMap (RunEvent.reportBy? i)

/-- What happened between two states of a run. -/
def happened (start final : RunState W) : List RunEvent :=
  final.journal.drop start.journal.length

theorem happened_eq {start final : RunState W} {events : List RunEvent}
    (h : final.journal = start.journal ++ events) : happened start final = events := by
  rw [happened, h, List.drop_left]

@[simp] theorem begun_append (xs ys : List RunEvent) : begun (xs ++ ys) = begun xs ++ begun ys :=
  List.filterMap_append

@[simp] theorem ended_append (xs ys : List RunEvent) : ended (xs ++ ys) = ended xs ++ ended ys :=
  List.filterMap_append

@[simp] theorem reportsOf_append (xs ys : List RunEvent) (i : Invocation) :
    reportsOf (xs ++ ys) i = reportsOf xs i ++ reportsOf ys i :=
  List.filterMap_append

theorem begun_cons_began (i : Invocation) (events : List RunEvent) :
    begun (.began i :: events) = i :: begun events := rfl

theorem begun_cons_of_none {e : RunEvent} {events : List RunEvent} (h : e.beginning? = none) :
    begun (e :: events) = begun events :=
  List.filterMap_cons_none h

theorem ended_cons_of_none {e : RunEvent} {events : List RunEvent} (h : e.ending? = none) :
    ended (e :: events) = ended events :=
  List.filterMap_cons_none h

theorem ended_cons_of_some {e : RunEvent} {events : List RunEvent} {i : Invocation}
    (h : e.ending? = some i) : ended (e :: events) = i :: ended events :=
  List.filterMap_cons_some h

theorem mem_begun {events : List RunEvent} {i : Invocation} :
    i ∈ begun events ↔ .began i ∈ events := by
  rw [begun, List.mem_filterMap]
  constructor
  · rintro ⟨e, he, hi⟩
    cases e with
    | began j => exact Option.some.inj hi ▸ he
    | _ => exact nomatch hi
  · exact fun h => ⟨_, h, rfl⟩

/-- Whoever has no event reported nothing. -/
theorem reportsOf_eq_nil {events : List RunEvent} {i : Invocation}
    (h : ∀ e ∈ events, e.invocation ≠ i) : reportsOf events i = [] := by
  rw [reportsOf, List.filterMap_eq_nil_iff]
  intro e he
  refine Option.eq_none_iff_forall_ne_some.mpr fun d heq => h e he ?_
  rw [RunEvent.reportBy?_eq_some.mp heq, RunEvent.invocation]

/-- Those of `line` that returned, in the order in which they did. -/
def returnedAmong (events : List RunEvent) (line : List Invocation) : List Invocation :=
  events.filterMap (RunEvent.returnAmong? line)

/-- What those of `line` that returned have reported, in the order of their returns. -/
def recorded (events : List RunEvent) (line : List Invocation) : List Diagnostic :=
  (returnedAmong events line).flatMap (reportsOf events)

@[simp] theorem returnedAmong_append (xs ys : List RunEvent) (line : List Invocation) :
    returnedAmong (xs ++ ys) line = returnedAmong xs line ++ returnedAmong ys line :=
  List.filterMap_append

theorem mem_returnedAmong {events : List RunEvent} {line : List Invocation} {i : Invocation} :
    i ∈ returnedAmong events line ↔ i ∈ line ∧ ∃ output, .returned i output ∈ events := by
  rw [returnedAmong, List.mem_filterMap]
  constructor
  · rintro ⟨e, he, hreturn⟩
    obtain ⟨hi, output, rfl⟩ := RunEvent.returnAmong?_eq_some.mp hreturn
    exact ⟨hi, output, he⟩
  · rintro ⟨hi, output, he⟩
    exact ⟨_, he, RunEvent.returnAmong?_eq_some.mpr ⟨hi, output, rfl⟩⟩

theorem returnedAmong_congr {events : List RunEvent} {line line' : List Invocation}
    (h : ∀ i output, .returned i output ∈ events → (i ∈ line ↔ i ∈ line')) :
    returnedAmong events line = returnedAmong events line' := by
  refine List.filterMap_congr fun e he => ?_
  cases e with
  | returned i output => exact if_congr (h i output he) rfl rfl
  | _ => rfl

theorem returnedAmong_eq_nil {events : List RunEvent} {line : List Invocation}
    (h : ∀ i ∈ line, ∀ output, .returned i output ∉ events) : returnedAmong events line = [] := by
  refine List.eq_nil_iff_forall_not_mem.mpr fun i hi => ?_
  obtain ⟨hl, output, he⟩ := mem_returnedAmong.mp hi
  exact h i hl output he

theorem recorded_eq_nil {events : List RunEvent} {line : List Invocation}
    (h : ∀ i ∈ line, ∀ output, .returned i output ∉ events) : recorded events line = [] := by
  rw [recorded, returnedAmong_eq_nil h]
  rfl

/-- Later events add nothing to what is recorded if nobody of the line returns in them
and those that have returned do nothing more. -/
theorem recorded_append_of_done {events later : List RunEvent} {line : List Invocation}
    (hreturn : ∀ i ∈ line, ∀ output, .returned i output ∉ later)
    (hdone : ∀ i ∈ returnedAmong events line, ∀ e ∈ later, e.invocation ≠ i) :
    recorded (events ++ later) line = recorded events line := by
  rw [recorded, returnedAmong_append, returnedAmong_eq_nil hreturn, List.append_nil]
  refine List.flatMap_congr fun i hi => ?_
  rw [reportsOf_append, reportsOf_eq_nil (hdone i hi), List.append_nil]

/-- With its return an invocation is recorded, after all that was recorded while it ran. -/
theorem recorded_of_returned {events : List RunEvent} {line : List Invocation} {i : Invocation}
    (output : Program) (h : i ∈ line) :
    recorded (.began i :: (events ++ [.returned i output])) line =
      recorded events line ++ reportsOf events i := by
  -- neither its beginning nor its return is a report
  have hreports : ∀ j, reportsOf (.began i :: (events ++ [.returned i output])) j =
      reportsOf events j := by
    intro j
    show reportsOf (events ++ [.returned i output]) j = _
    rw [reportsOf_append]
    exact List.append_nil _
  have hreturned : returnedAmong (.began i :: (events ++ [.returned i output])) line =
      returnedAmong events line ++ [i] := by
    show returnedAmong (events ++ [.returned i output]) line = _
    rw [returnedAmong_append]
    exact congrArg _ (List.filterMap_cons_some (if_pos h))
  rw [recorded, hreturned, List.flatMap_append, List.flatMap_singleton, hreports,
    List.flatMap_congr fun j _ => hreports j, recorded]

/-- Lines with separate events are recorded one after the other. -/
theorem recorded_append {events events' : List RunEvent} {line line' : List Invocation}
    (h : ∀ i ∈ line, ∀ e ∈ events', e.invocation ≠ i)
    (h' : ∀ i ∈ line', ∀ e ∈ events, e.invocation ≠ i) :
    recorded (events ++ events') (line ++ line') =
      recorded events line ++ recorded events' line' := by
  -- who returns among the first events is of the first line, and likewise for the others
  have hleft : returnedAmong events (line ++ line') = returnedAmong events line :=
    returnedAmong_congr fun i output he => by
      rw [List.mem_append]
      exact or_iff_left fun hi => h' i hi _ he rfl
  have hright : returnedAmong events' (line ++ line') = returnedAmong events' line' :=
    returnedAmong_congr fun i output he => by
      rw [List.mem_append]
      exact or_iff_right fun hi => h i hi _ he rfl
  rw [recorded, returnedAmong_append, List.flatMap_append, hleft, hright, recorded, recorded]
  congr 1
  · refine List.flatMap_congr fun i hi => ?_
    rw [reportsOf_append, reportsOf_eq_nil (h i (mem_returnedAmong.mp hi).1), List.append_nil]
  · refine List.flatMap_congr fun i hi => ?_
    rw [reportsOf_append, reportsOf_eq_nil (h' i (mem_returnedAmong.mp hi).1), List.nil_append]

/-! ### Nesting -/

/-- The events take the stack of running invocations from `running` to `after`: an
invocation goes on top when it begins and comes off when it ends, and in between it is
the one on top that acts. -/
inductive Stacked : (running : List Invocation) → List RunEvent → (after : List Invocation) →
    Prop where
  | nil (running : List Invocation) : Stacked running [] running
  | begins {running events after} (i : Invocation) (rest : Stacked (i :: running) events after) :
      Stacked running (.began i :: events) after
  | acts {running events after} (e : RunEvent) (hb : e.beginning? = none)
      (he : e.ending? = none) (rest : Stacked (e.invocation :: running) events after) :
      Stacked (e.invocation :: running) (e :: events) after
  | ends {running events after} (e : RunEvent) {i : Invocation} (he : e.ending? = some i)
      (rest : Stacked running events after) : Stacked (i :: running) (e :: events) after

namespace Stacked

variable {running middle after : List Invocation} {events events' : List RunEvent}
variable {i a b : Invocation}

theorem append (first : Stacked running events middle) (last : Stacked middle events' after) :
    Stacked running (events ++ events') after := by
  induction first with
  | nil => exact last
  | begins i _ ih => exact .begins i (ih last)
  | acts e hb he _ ih => exact .acts e hb he (ih last)
  | ends e he _ ih => exact .ends e he (ih last)

theorem act (e : RunEvent) (hb : e.beginning? = none) (he : e.ending? = none) :
    Stacked (e.invocation :: running) [e] (e.invocation :: running) :=
  .acts e hb he (.nil _)

-- What acts or ends is on top of the stack.
theorem exists_below_of_act {e : RunEvent} (hb : e.beginning? = none) (he : e.ending? = none)
    (h : Stacked running (e :: events) after) :
    ∃ below, running = e.invocation :: below ∧ Stacked (e.invocation :: below) events after := by
  cases h with
  | begins i rest => exact nomatch hb
  | acts e hb he rest => exact ⟨_, rfl, rest⟩
  | ends e hi rest => rw [hi] at he; exact nomatch he

theorem exists_below_of_end {e : RunEvent} (he : e.ending? = some i)
    (h : Stacked running (e :: events) after) :
    ∃ below, running = i :: below ∧ Stacked below events after := by
  cases h with
  | begins i rest => exact nomatch he
  | acts e hb hn rest => rw [hn] at he; exact nomatch he
  | ends e hi rest => exact ⟨_, by rw [Option.some.inj (hi.symm.trans he)], rest⟩

theorem exists_middle (h : Stacked running (events ++ events') after) :
    ∃ middle, Stacked running events middle ∧ Stacked middle events' after := by
  induction events generalizing running with
  | nil => exact ⟨running, .nil _, h⟩
  | cons e events ih =>
    cases h with
    | begins i rest => exact (ih rest).imp fun _ hm => ⟨.begins i hm.1, hm.2⟩
    | acts e hb he rest => exact (ih rest).imp fun _ hm => ⟨.acts e hb he hm.1, hm.2⟩
    | ends e he rest => exact (ih rest).imp fun _ hm => ⟨.ends e he hm.1, hm.2⟩

/-- **Balance.** What began or was running has ended or is running still. -/
theorem balance (h : Stacked running events after) :
    (begun events ++ running).Perm (ended events ++ after) := by
  induction h with
  | nil => exact .refl _
  | begins i rest ih =>
    rw [begun_cons_began, ended_cons_of_none rfl]
    exact (List.perm_middle.symm).trans ih
  | acts e hb he rest ih => rwa [begun_cons_of_none hb, ended_cons_of_none he]
  | ends e he rest ih =>
    rw [begun_cons_of_none (RunEvent.beginning?_of_ending? he), ended_cons_of_some he]
    exact (List.perm_middle).trans (ih.cons _)

/-- Only what is running or begins can have an event. -/
theorem mem_of_event (h : Stacked running events after) {e : RunEvent} (he : e ∈ events) :
    e.invocation ∈ running ∨ e.invocation ∈ begun events := by
  induction h with
  | nil => exact absurd he (List.not_mem_nil)
  | begins i rest ih =>
    rw [begun_cons_began, List.mem_cons]
    rcases List.mem_cons.mp he with rfl | he
    · exact .inr (.inl rfl)
    · rcases ih he with hr | hr
      · exact (List.mem_cons.mp hr).elim (fun h => .inr (.inl h)) .inl
      · exact .inr (.inr hr)
  | acts e' hb he' rest ih =>
    rw [begun_cons_of_none hb]
    rcases List.mem_cons.mp he with rfl | he
    · exact .inl (List.mem_cons_self ..)
    · exact ih he
  | ends e' he' rest ih =>
    rw [begun_cons_of_none (RunEvent.beginning?_of_ending? he')]
    rcases List.mem_cons.mp he with rfl | he
    · exact .inl (RunEvent.invocation_of_ending? he' ▸ List.mem_cons_self ..)
    · exact (ih he).imp_left (List.mem_cons_of_mem _)

/-- Until it ends, an invocation stays where it is on the stack, over the same others. -/
theorem suffix_of_not_ended (above : List Invocation) {below : List Invocation}
    (h : Stacked (above ++ a :: below) events after) (ha : a ∉ ended events) :
    ∃ above', after = above' ++ a :: below := by
  generalize hr : above ++ a :: below = running at h
  induction h generalizing above with
  | nil => exact ⟨above, hr.symm⟩
  | begins i rest ih =>
    rw [ended_cons_of_none rfl] at ha
    exact ih (i :: above) ha (congrArg (i :: ·) hr)
  | acts e hb he rest ih =>
    rw [ended_cons_of_none he] at ha
    exact ih above ha hr
  | ends e he rest ih =>
    rw [ended_cons_of_some he, List.mem_cons, not_or] at ha
    cases above with
    | nil =>
      -- `a` is on top, so it is `a` that ends
      exact absurd (List.cons.inj hr).1 ha.1
    | cons top above => exact ih above ha.2 (List.cons.inj hr).2

/-! Events of a whole run, in which nothing was running before and no invocation begins
twice. -/

section Once

variable {earlier later between since : List RunEvent}

/-- Whoever has an event began exactly once. -/
theorem count_begun {e : RunEvent} (h : Stacked [] events middle) (once : (begun events).Nodup)
    (he : e ∈ events) : (begun events).count e.invocation = 1 := by
  rcases h.mem_of_event he with hr | hr
  · exact absurd hr (List.not_mem_nil)
  · exact List.count_eq_one_of_mem once hr

theorem nodup_stack (h : Stacked [] events middle) (once : (begun events).Nodup) :
    (TransformerEngine.ended events ++ middle).Nodup := by
  have hperm := h.balance
  rw [List.append_nil] at hperm
  exact hperm.nodup_iff.mp once

/-- **Whoever has ended does nothing more.** -/
theorem not_mem_after_end {e : RunEvent} (h : Stacked [] (earlier ++ e :: later) [])
    (once : (begun (earlier ++ e :: later)).Nodup) (he : e.ending? = some a) :
    ∀ e' ∈ later, e'.invocation ≠ a := by
  obtain ⟨_, hearlier, hlater⟩ := h.exists_middle
  obtain ⟨running, rfl, hrest⟩ := exists_below_of_end he hlater
  rw [begun_append, begun_cons_of_none (RunEvent.beginning?_of_ending? he)] at once
  obtain ⟨honce, -, hdisj⟩ := List.nodup_append'.mp once
  -- `a` had begun before it ended, so it neither is on the stack nor begins anew
  have ha_running : a ∉ running :=
    (List.nodup_cons.mp (List.nodup_append'.mp (hearlier.nodup_stack honce)).2.1).1
  have ha_earlier : a ∈ begun earlier := by
    have hperm := hearlier.balance
    rw [List.append_nil] at hperm
    exact hperm.mem_iff.mpr (List.mem_append_right _ (List.mem_cons_self ..))
  intro e' he' heq
  rcases hrest.mem_of_event he' with hr | hr
  · exact ha_running (heq ▸ hr)
  · exact hdisj ha_earlier (heq ▸ hr)

/-- **The one that acts later ends first.** If one invocation acts after another has
acted and before that other one ends, then it ends in between. -/
theorem mem_ended_between {x y z : RunEvent} (hx : x.beginning? = none)
    (hx' : x.ending? = none) (hy : y.beginning? = none) (hy' : y.ending? = none)
    (hz : z.ending? = some x.invocation) (hne : y.invocation ≠ x.invocation)
    (h : Stacked [] (earlier ++ x :: (since ++ y :: (between ++ z :: later))) [])
    (once : (begun (earlier ++ x :: (since ++ y :: (between ++ z :: later)))).Nodup) :
    y.invocation ∈ TransformerEngine.ended between := by
  -- the stack at each of the three events, with the invocation of the event on top
  obtain ⟨_, h₀, h₁⟩ := h.exists_middle
  obtain ⟨below, rfl, h₂⟩ := exists_below_of_act hx hx' h₁
  obtain ⟨_, h₃, h₄⟩ := h₂.exists_middle
  obtain ⟨below', rfl, h₅⟩ := exists_below_of_act hy hy' h₄
  obtain ⟨_, h₆, h₇⟩ := h₅.exists_middle
  obtain ⟨below'', rfl, -⟩ := exists_below_of_end hz h₇
  -- up to the end `z` everything that has ended or is running is different
  have hupto : Stacked [] (earlier ++ x :: (since ++ y :: between)) (x.invocation :: below'') :=
    h₀.append (.acts x hx hx' (h₃.append (.acts y hy hy' h₆)))
  have hdiff := hupto.nodup_stack <| once.sublist <| by
    refine List.Sublist.filterMap _ (.append_left (.cons_cons _ (.append_left (.cons_cons _ ?_) _)) _)
    exact List.sublist_append_left _ _
  obtain ⟨-, hrunning, hdisj⟩ := List.nodup_append'.mp hdiff
  have hx_since : x.invocation ∉ TransformerEngine.ended since := by
    intro hmem
    refine hdisj ?_ (List.mem_cons_self ..)
    rw [ended_append, ended_cons_of_none hx', ended_append]
    exact List.mem_append_right _ (List.mem_append_left _ hmem)
  -- so at `y` the first invocation is still on the stack, and under the other one
  have hx_below' : x.invocation ∈ below' := by
    obtain ⟨above, habove⟩ := suffix_of_not_ended [] h₃ hx_since
    cases above with
    | nil => exact absurd (List.cons.inj habove).1 hne
    | cons top above =>
      rw [(List.cons.inj habove).2]
      exact List.mem_append_right _ (List.mem_cons_self ..)
  -- were the other one still running at `z`, the first would not be on top
  by_contra hy_between
  obtain ⟨above, habove⟩ := suffix_of_not_ended [] h₆ hy_between
  cases above with
  | nil => exact hne (List.cons.inj habove).1.symm
  | cons top above =>
    refine (List.nodup_cons.mp hrunning).1 ?_
    rw [(List.cons.inj habove).2]
    exact List.mem_append_right _ (List.mem_cons_of_mem _ hx_below')

end Once

end Stacked

/-! ### Runs nest -/

/-- What a run adds to the journal leaves the running invocations as they were. -/
def Applying.Nests (nested : Applying W) : Prop :=
  ∀ (program : Program) (state : RunState W), ∃ events,
    (nested program state).2.journal = state.journal ++ events ∧
      ∀ running, Stacked running events running

/-- Having added only events under the invocation on top is kept by every step of its
script. -/
theorem nests_invariant {nested : Applying W} (hn : Applying.Nests nested)
    (invocation : Invocation) (start : RunState W) :
    Script.Invariant nested invocation fun _ _ (state : RunState W) =>
      ∃ events, state.journal = start.journal ++ events ∧
        ∀ running, Stacked (invocation :: running) events (invocation :: running) := by
  -- one event of the invocation's own at the end
  have own : ∀ {state : RunState W} (e : RunEvent), e.invocation = invocation →
      e.beginning? = none → e.ending? = none →
      (∃ events, state.journal = start.journal ++ events ∧
        ∀ running, Stacked (invocation :: running) events (invocation :: running)) →
      ∃ events, state.journal ++ [e] = start.journal ++ events ∧
        ∀ running, Stacked (invocation :: running) events (invocation :: running) := by
    rintro state e rfl hb he ⟨events, hj, hs⟩
    refine ⟨events ++ [e], ?_, fun running => (hs running).append (.act e hb he)⟩
    rw [hj, List.append_assoc]
  refine ⟨fun _ _ h => own _ rfl rfl rfl h, fun _ h => own _ rfl rfl rfl h,
    fun h => own _ rfl rfl rfl h, ?_, fun _ _ h => h, fun _ h => h⟩
  intro known reports state roots h
  obtain ⟨events, hj, hs⟩ := own (.derived invocation (state.derive invocation roots).1) rfl rfl
    rfl h
  obtain ⟨inner, hj', hs'⟩ :=
    hn (state.derive invocation roots).1 (state.derive invocation roots).2
  refine ⟨events ++ inner, ?_, fun running => (hs running).append (hs' _)⟩
  rw [hj', RunState.derive_journal, hj, List.append_assoc]

theorem invoke_nests {nested : Applying W} (hn : Applying.Nests nested)
    (transform : ProgramTransform W) (invocation : Invocation) (state : RunState W) :
    ∃ events, (invoke nested transform invocation state).2.journal = state.journal ++ events ∧
      ∀ running, Stacked running events running := by
  obtain ⟨_, _, ⟨events, hj, hs⟩, -⟩ :=
    (nests_invariant hn invocation (state.note (.began invocation))).run (transform invocation)
      [] [] ⟨[], (List.append_nil _).symm, fun _ => .nil _⟩
  have hends : ∀ e : RunEvent, e.ending? = some invocation →
      ∀ running, Stacked running (.began invocation :: (events ++ [e])) running :=
    fun e he running => .begins invocation ((hs running).append (.ends e he (.nil _)))
  rcases invoke_cases nested transform invocation state with
    ⟨output, reports, final, heq, hinv⟩ | ⟨failure, final, heq, hinv⟩
  · rw [heq] at hj
    refine ⟨_, ?_, hends (.returned invocation output) rfl⟩
    rw [hinv, RunState.settle_journal, hj]
    simp
  · rw [heq] at hj
    refine ⟨_, ?_, hends (.failed invocation failure) rfl⟩
    rw [hinv, RunState.note_journal, hj]
    simp

theorem applyAll_nests {nested : Applying W} (hn : Applying.Nests nested)
    (transforms : List (ResolvedTransform W)) : Applying.Nests (applyAll nested transforms) := by
  intro program state
  induction transforms generalizing program state with
  | nil => exact ⟨[], (List.append_nil _).symm, fun _ => .nil _⟩
  | cons t rest ih =>
    rcases applyAll_cons_cases nested t rest program state with hskip | ⟨transform, hv, hnew⟩
    · rw [hskip]
      exact ih program state
    · obtain ⟨events, hj, hs⟩ := invoke_nests hn transform (t.invocationOn program) state
      rw [applyAll_cons_of_new hnew hv]
      generalize invoke nested transform (t.invocationOn program) state = answer at hj ⊢
      obtain ⟨result, final⟩ := answer
      cases result with
      | error failure => exact ⟨events, hj, hs⟩
      | ok output =>
        obtain ⟨later, hj', hs'⟩ := ih output final
        refine ⟨events ++ later, ?_, fun running => (hs running).append (hs' running)⟩
        rw [← List.append_assoc, ← hj]
        exact hj'

/-- **Runs nest.** Whatever the transforms do, every invocation that begins in a run ends
in it, after all that began while it was running. -/
theorem applyWithin_nests (transforms : List (ResolvedTransform W)) (depth : Nat) :
    Applying.Nests (applyWithin transforms depth) := by
  induction depth with
  | zero => exact fun _ _ => ⟨[], (List.append_nil _).symm, fun _ => .nil _⟩
  | succ depth ih => exact applyAll_nests ih transforms

theorem applyTransforms_stacked {transforms : List (ResolvedTransform W)} {program : Program}
    {state final : RunState W} {result : Except PluginError Program}
    (h : applyTransforms transforms program state = (result, final))
    (running : List Invocation) : Stacked running (happened state final) running := by
  obtain ⟨events, hjournal, hstacked⟩ :=
    applyWithin_nests transforms transforms.length program state
  rw [show applyWithin transforms transforms.length program state = _ from h] at hjournal
  rw [happened_eq hjournal]
  exact hstacked running

end TransformerEngine
