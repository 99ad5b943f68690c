import TransformerEngine.Proofs.Lineage.Growth
import TransformerEngine.Proofs.Lineage.Journal

/-!
# The running invocations

Which invocations are running at a moment of a run is read off the events up to it
(`running`): an invocation goes on top of the stack when it begins, and when one ends it is
the one on top. `Throughout` says that something holds of the stack at every moment.

No transform ever runs inside itself (`applyWithin_keepsDistinct`), whatever the transforms
do and whatever programs they return. What is carried through the run is that the program
that is handed around has been through every transform that is running. A derived program
has, since it inherits from the input of the invocation on top; what an invocation returns
has, since it inherits from that input as well. And what the program has been through is
not invoked on it.
-/

namespace TransformerEngine

variable {W : Type}

/-! ### The stack -/

/-- The stack of running invocations after an event, the innermost on top. -/
def RunEvent.restack (stack : List Invocation) : RunEvent → List Invocation
  | .began i => i :: stack
  | .returned _ _ => stack.tail
  | .failed _ _ => stack.tail
  | _ => stack

/-- The invocations that are running after `events`, the innermost first. -/
def running (events : List RunEvent) : List Invocation := events.foldl RunEvent.restack []

theorem RunEvent.restack_of_act (stack : List Invocation) {e : RunEvent}
    (hb : e.beginning? = none) (he : e.ending? = none) : e.restack stack = stack := by
  cases e with
  | began i => exact nomatch hb
  | returned i output => exact nomatch he
  | failed i failure => exact nomatch he
  | _ => rfl

theorem RunEvent.restack_of_ending? (stack : List Invocation) {e : RunEvent} {i : Invocation}
    (he : e.ending? = some i) : e.restack stack = stack.tail := by
  cases e <;> first | rfl | exact nomatch he

/-- The stack that nested events lead to is the one that is read off them. -/
theorem Stacked.foldl_restack {stack after : List Invocation} {events : List RunEvent}
    (h : Stacked stack events after) : events.foldl RunEvent.restack stack = after := by
  induction h with
  | nil => rfl
  | begins i rest ih => exact ih
  | acts e hb he rest ih => rwa [List.foldl_cons, RunEvent.restack_of_act _ hb he]
  | ends e he rest ih => rwa [List.foldl_cons, RunEvent.restack_of_ending? _ he]

/-! ### What holds throughout -/

/-- `P` holds of the stack of running invocations at first and after each of the events. -/
def Throughout (P : List Invocation → Prop) (stack : List Invocation) : List RunEvent → Prop
  | [] => P stack
  | e :: events => P stack ∧ Throughout P (e.restack stack) events

section Throughout

variable {P : List Invocation → Prop} {stack : List Invocation} {xs ys : List RunEvent}

theorem Throughout.initial (h : Throughout P stack xs) : P stack := by
  cases xs with
  | nil => exact h
  | cons e xs => exact h.1

theorem throughout_append :
    Throughout P stack (xs ++ ys) ↔
      Throughout P stack xs ∧ Throughout P (xs.foldl RunEvent.restack stack) ys := by
  induction xs generalizing stack with
  | nil =>
    -- the stack between the two parts is spoken of twice
    exact ⟨fun h => ⟨h.initial, h⟩, And.right⟩
  | cons e xs ih =>
    rw [List.cons_append, Throughout, Throughout, List.foldl_cons, ih, and_assoc]

theorem Throughout.of_prefix (h : Throughout P stack ys) (hxs : xs <+: ys) :
    P (xs.foldl RunEvent.restack stack) := by
  obtain ⟨later, rfl⟩ := hxs
  exact (throughout_append.mp h).2.initial

end Throughout

/-! ### No transform runs inside itself -/

/-- The invocations are of different transforms, all of them among `ids`. -/
def Distinct (ids : List TransformIdentity) (stack : List Invocation) : Prop :=
  (stack.map Invocation.identity).Nodup ∧ ∀ i ∈ stack, i.identity ∈ ids

/-- There are no more running invocations than transforms. -/
theorem Distinct.length_le {ids : List TransformIdentity} {stack : List Invocation}
    (h : Distinct ids stack) : stack.length ≤ ids.eraseDups.length := by
  rw [← List.length_map Invocation.identity]
  refine (List.subperm_of_subset h.1 fun identity hidentity => ?_).length_le
  obtain ⟨i, hi, rfl⟩ := List.mem_map.mp hidentity
  exact List.mem_eraseDups.mpr (h.2 i hi)

/-- Every transform of the stack was applied along the line of `id`. -/
def Lineage.Covers (lineage : Lineage) (id : ProgramId) (stack : List Invocation) : Prop :=
  ∀ i ∈ stack, i.identity ∈ lineage.applied id

/-- From `start` to `now` the running invocations were different all the time, and at the
end they are those of the beginning. -/
def StayedDistinct (ids : List TransformIdentity) (stack : List Invocation)
    (start now : RunState W) : Prop :=
  ∃ events, now.journal = start.journal ++ events ∧
    events.foldl RunEvent.restack stack = stack ∧ Throughout (Distinct ids) stack events

/-- However deep a program was derived that has been through all transforms that are
running, the running invocations stay different while it is handed around. -/
def Applying.KeepsDistinct (ids : List TransformIdentity) (nested : Applying W) : Prop :=
  ∀ (program : Program) (state : RunState W) (stack : List Invocation),
    Distinct ids stack → state.lineage.Covers program.id stack →
      StayedDistinct ids stack state (nested program state).2

section Distinct

variable {ids : List TransformIdentity} {stack : List Invocation} {start mid now : RunState W}

theorem StayedDistinct.refl (h : Distinct ids stack) : StayedDistinct ids stack start start :=
  ⟨[], (List.append_nil _).symm, rfl, h⟩

theorem StayedDistinct.trans (first : StayedDistinct ids stack start mid)
    (last : StayedDistinct ids stack mid now) : StayedDistinct ids stack start now := by
  obtain ⟨events, hjournal, hstack, hthroughout⟩ := first
  obtain ⟨later, hjournal', hstack', hthroughout'⟩ := last
  refine ⟨events ++ later, ?_, ?_, throughout_append.mpr ⟨hthroughout, hstack.symm ▸ hthroughout'⟩⟩
  · rw [hjournal', hjournal, List.append_assoc]
  · rw [List.foldl_append, hstack, hstack']

/-- An event that is neither a beginning nor an end leaves the stack as it is. -/
theorem StayedDistinct.act {e : RunEvent} (h : Distinct ids stack) (hb : e.beginning? = none)
    (he : e.ending? = none) (hjournal : now.journal = start.journal ++ [e]) :
    StayedDistinct ids stack start now := by
  have hsame : e.restack stack = stack := RunEvent.restack_of_act stack hb he
  exact ⟨[e], hjournal, hsame, h, show Distinct ids _ from hsame.symm ▸ h⟩

/-- With its beginning and its end around it, what happened under an invocation has left
the invocations below it as they were. -/
theorem StayedDistinct.invoked {invocation : Invocation} {e : RunEvent} (h : Distinct ids stack)
    (inner : StayedDistinct ids (invocation :: stack) (start.note (.began invocation)) mid)
    (hend : e.ending? = some invocation) (hjournal : now.journal = mid.journal ++ [e]) :
    StayedDistinct ids stack start now := by
  obtain ⟨events, hinner, hstack, hthroughout⟩ := inner
  have hlast : (events ++ [e]).foldl RunEvent.restack (invocation :: stack) = stack := by
    rw [List.foldl_append, hstack, List.foldl_cons, RunEvent.restack_of_ending? _ hend]
    rfl
  refine ⟨.began invocation :: (events ++ [e]), ?_, hlast, h, ?_⟩
  · rw [hjournal, hinner, RunState.note_journal]
    simp
  · -- at the end both the stack with the invocation and the one without it are fine
    have hends : Throughout (Distinct ids) (invocation :: stack) [e] := by
      refine ⟨hthroughout.initial, ?_⟩
      rw [RunEvent.restack_of_ending? _ hend]
      exact h
    exact throughout_append.mpr ⟨hthroughout, hstack.symm ▸ hends⟩

/-- Every step of a script keeps the running invocations different. -/
theorem keepsDistinct_invariant {nested : Applying W} (hgrows : Applying.Grows nested)
    (hnested : Applying.KeepsDistinct ids nested) {invocation : Invocation}
    (hdistinct : Distinct ids (invocation :: stack))
    (hcovers : start.lineage.Covers invocation.input.id stack) :
    Script.Invariant nested invocation fun _ _ (state : RunState W) =>
      start.lineage.Grows state.lineage ∧ StayedDistinct ids (invocation :: stack) start state where
  addFile _ _ h := ⟨h.1, h.2.trans (.act hdistinct rfl rfl rfl)⟩
  report _ h := ⟨h.1, h.2.trans (.act hdistinct rfl rfl rfl)⟩
  originRoots h := ⟨h.1, h.2.trans (.act hdistinct rfl rfl rfl)⟩
  derive {_ _ state} roots h := by
    -- the child inherits from the input, whose line has only grown, and from the invocation
    have hchild : (state.derive invocation roots).2.lineage.Covers
        (state.derive invocation roots).1.id (invocation :: stack) := by
      intro i hi
      refine Lineage.mem_applied_inherit.mpr (.inr ⟨rfl, ?_⟩)
      rcases List.mem_cons.mp hi with rfl | hi
      · exact .inr (List.mem_singleton_self _)
      · exact .inl (h.1 _ _ (hcovers i hi))
    have hjoined := Lineage.grows_inherit state.lineage invocation.input
      (state.derive invocation roots).1 [invocation.identity]
    refine ⟨h.1.trans (hjoined.trans (hgrows _ (state.derive invocation roots).2)), ?_⟩
    exact (h.2.trans (.act hdistinct rfl rfl (RunState.derive_journal state invocation roots))).trans
      (hnested _ _ _ hdistinct hchild)
  build _ _ h := h
  writeWorld _ h := h

theorem invoke_stayedDistinct {nested : Applying W} (hgrows : Applying.Grows nested)
    (hnested : Applying.KeepsDistinct ids nested) (transform : ProgramTransform W)
    {invocation : Invocation} (state : RunState W) (hstack : Distinct ids stack)
    (hcovers : state.lineage.Covers invocation.input.id stack)
    (hid : invocation.identity ∈ ids)
    (hnew : invocation.identity ∉ state.lineage.applied invocation.input.id) :
    StayedDistinct ids stack state (invoke nested transform invocation state).2 := by
  -- what is running was applied to the input, and what is invoked was not
  have hdistinct : Distinct ids (invocation :: stack) := by
    refine ⟨List.nodup_cons.mpr ⟨fun hmem => ?_, hstack.1⟩, ?_⟩
    · obtain ⟨i, hi, heq⟩ := List.mem_map.mp hmem
      exact hnew (heq ▸ hcovers i hi)
    · exact List.forall_mem_cons.mpr ⟨hid, hstack.2⟩
  have hbegan : (state.note (.began invocation)).lineage.Covers invocation.input.id stack :=
    hcovers
  obtain ⟨_, _, ⟨-, hinner⟩, -⟩ :=
    (keepsDistinct_invariant hgrows hnested hdistinct hbegan).run (transform invocation) [] []
      ⟨.refl _, .refl hdistinct⟩
  rcases invoke_cases nested transform invocation state with
    ⟨output, reports, final, heq, hinv⟩ | ⟨failure, final, heq, hinv⟩
  · rw [heq] at hinner
    rw [hinv]
    exact hinner.invoked hstack rfl (RunState.settle_journal final invocation output reports)
  · rw [heq] at hinner
    rw [hinv]
    exact hinner.invoked hstack rfl (RunState.note_journal final _)

theorem applyAll_keepsDistinct {nested : Applying W} (hgrows : Applying.Grows nested)
    (hnested : Applying.KeepsDistinct ids nested) {transforms : List (ResolvedTransform W)}
    (hids : ∀ t ∈ transforms, t.identity ∈ ids) :
    Applying.KeepsDistinct ids (applyAll nested transforms) := by
  intro program state stack hstack hcovers
  induction transforms generalizing program state with
  | nil => exact .refl hstack
  | cons t rest ih =>
    have hids' : ∀ t ∈ rest, t.identity ∈ ids := fun t ht => hids t (List.mem_cons_of_mem _ ht)
    rcases applyAll_cons_cases nested t rest program state with hskip | ⟨transform, hv, hnew⟩
    · rw [hskip]
      exact ih hids' program state hcovers
    · have hid : (t.invocationOn program).identity ∈ ids := hids t (List.mem_cons_self ..)
      have hinvoked :=
        invoke_stayedDistinct hgrows hnested transform state hstack hcovers hid hnew
      rw [applyAll_cons_of_new hnew hv]
      cases hanswer : invoke nested transform (t.invocationOn program) state with
      | mk result middle =>
        rw [hanswer] at hinvoked
        cases result with
        | error failure => exact hinvoked
        | ok output =>
          -- what came back has been through all that its input had been through
          refine hinvoked.trans (ih hids' output middle fun i hi => ?_)
          exact mem_applied_of_invoke hgrows hanswer (.inl (hcovers i hi))

/-- **No transform runs inside itself.** -/
theorem applyWithin_keepsDistinct (transforms : List (ResolvedTransform W)) (depth : Nat) :
    Applying.KeepsDistinct (transforms.map ResolvedTransform.identity)
      (applyWithin transforms depth) := by
  induction depth with
  | zero => exact fun _ _ _ hstack _ => .refl hstack
  | succ depth ih =>
    exact applyAll_keepsDistinct (applyWithin_grows transforms depth) ih
      fun t ht => List.mem_map_of_mem ht

end Distinct

end TransformerEngine
