import Mathlib.Logic.Function.Basic
import TransformerEngine.Proofs.Lineage.Journal

/-!
# Lines of programs

The line of a program is the list of invocations that it has been through since a run
began. It is read off the journal alone (`lineOf`): a derived program starts with the line
of the program it was derived from and the invocation that derived it, and an invocation
that returns its own input is added to that input's line.

What a line is expected to consist of is the transforms of a list that were not applied
before, each once, in the order of the list (`unapplied`); its lemmas say how it shrinks
when a transform is applied. That programs are numbered upwards (`RunState.Numbered`) is
what keeps one line apart from another.
-/

namespace TransformerEngine

variable {W : Type}

/-! ### Lines from events -/

/-- The invocations along the line of each program. -/
abbrev Trail := ProgramId → List Invocation

/-- The lines after an event. What an invocation returns that is not its input it has
derived, and that stands on its line already. -/
def RunEvent.extend (trail : Trail) : RunEvent → Trail
  | .derived i child => Function.update trail child.id (trail i.input.id ++ [i])
  | .returned i output =>
    if output.id = i.input.id then Function.update trail output.id (trail output.id ++ [i])
    else trail
  | _ => trail

@[simp] theorem RunEvent.extend_derived_self (trail : Trail) (i : Invocation) (child : Program) :
    (RunEvent.derived i child).extend trail child.id = trail i.input.id ++ [i] :=
  Function.update_self ..

/-- The end of an invocation leaves the lines of all programs but its input alone. -/
theorem RunEvent.extend_of_ending? {trail : Trail} {e : RunEvent} {i : Invocation}
    {id : ProgramId} (he : e.ending? = some i) (hid : id ≠ i.input.id) :
    e.extend trail id = trail id := by
  cases e with
  | returned j output =>
    obtain rfl := Option.some.inj he
    rw [extend]
    by_cases heq : output.id = j.input.id
    · rw [if_pos heq]
      exact Function.update_of_ne (heq ▸ hid) _ _
    · rw [if_neg heq]
  | failed j failure => rfl
  | _ => exact nomatch he

/-- The invocations that a program has been through in the course of events, those that
derived a program before those that it went through afterwards. -/
def lineOf (events : List RunEvent) (id : ProgramId) : List Invocation :=
  events.foldl RunEvent.extend (fun _ => []) id

/-! ### Transforms that are not applied yet -/

/-- The different ones of `ids` that are not among `applied`, in the order of their first
occurrence. -/
def unapplied (ids applied : List TransformIdentity) : List TransformIdentity :=
  ids.eraseDups.filter (· ∉ applied)

section Unapplied

variable {ids applied : List TransformIdentity} {i : TransformIdentity}

/-- Leaving out repetitions and leaving out other members commute. -/
theorem eraseDups_filter {α : Type} [DecidableEq α] (p : α → Bool) (xs : List α) :
    (xs.filter p).eraseDups = xs.eraseDups.filter p := by
  -- erasing the copies of the head may shorten the tail by any number
  induction hn : xs.length using Nat.strongRecOn generalizing xs with
  | _ n ih =>
    cases xs with
    | nil => rfl
    | cons x xs =>
      have hlt : (xs.filter fun y => !y == x).length < n := by
        rw [← hn]
        exact Nat.lt_succ_of_le (List.length_filter_le _ _)
      have hrest := ih _ hlt (xs.filter fun y => !y == x) rfl
      rw [List.eraseDups_cons]
      by_cases hx : p x = true
      · rw [List.filter_cons_of_pos hx, List.filter_cons_of_pos hx, List.eraseDups_cons,
          ← hrest, List.filter_filter, List.filter_filter]
        simp only [Bool.and_comm]
      · rw [List.filter_cons_of_neg hx, List.filter_cons_of_neg hx, ← hrest, List.filter_filter]
        refine congrArg List.eraseDups (List.filter_congr fun y _ => ?_)
        by_cases hy : y = x
        · subst hy; simp [hx]
        · simp [hy]

theorem mem_unapplied : i ∈ unapplied ids applied ↔ i ∈ ids ∧ i ∉ applied := by
  rw [unapplied, List.mem_filter, List.mem_eraseDups, decide_eq_true_iff]

theorem unapplied_congr {applied' : List TransformIdentity}
    (h : ∀ i, i ∈ applied ↔ i ∈ applied') : unapplied ids applied = unapplied ids applied' :=
  List.filter_congr fun i _ => by rw [decide_eq_decide, h]

theorem unapplied_cons_of_mem (h : i ∈ applied) :
    unapplied (i :: ids) applied = unapplied ids applied := by
  rw [unapplied, List.eraseDups_cons, List.filter_cons_of_neg (by simpa using h),
    eraseDups_filter, List.filter_filter, unapplied]
  refine List.filter_congr fun j _ => ?_
  by_cases hj : j = i
  · subst hj; simp [h]
  · simp [hj]

theorem unapplied_cons_of_not_mem (h : i ∉ applied) :
    unapplied (i :: ids) applied = i :: unapplied ids (i :: applied) := by
  rw [unapplied, List.eraseDups_cons, List.filter_cons_of_pos (by simpa using h),
    eraseDups_filter, List.filter_filter, unapplied]
  refine congrArg (i :: ·) (List.filter_congr fun j _ => ?_)
  by_cases hj : j = i
  · subst hj; simp
  · simp [hj]

theorem unapplied_append_of_subset {before : List TransformIdentity}
    (h : ∀ i ∈ before, i ∈ applied) :
    unapplied (before ++ ids) applied = unapplied ids applied := by
  induction before with
  | nil => rfl
  | cons i before ih =>
    rw [List.cons_append, unapplied_cons_of_mem (h i (List.mem_cons_self ..))]
    exact ih fun j hj => h j (List.mem_cons_of_mem _ hj)

theorem unapplied_eq_nil (h : ∀ i ∈ ids, i ∈ applied) : unapplied ids applied = [] :=
  List.eq_nil_iff_forall_not_mem.mpr fun i hi =>
    (mem_unapplied.mp hi).2 (h i (mem_unapplied.mp hi).1)

/-- The first that is not applied yet is the next one in line. -/
theorem unapplied_of_first {before rest : List TransformIdentity}
    (hbefore : ∀ j ∈ before, j ∈ applied) (hi : i ∉ applied) :
    unapplied (before ++ i :: rest) applied =
      i :: unapplied (before ++ i :: rest) (i :: applied) := by
  have hbefore' : ∀ j ∈ before, j ∈ i :: applied := fun j hj =>
    List.mem_cons_of_mem _ (hbefore j hj)
  rw [unapplied_append_of_subset hbefore, unapplied_append_of_subset hbefore',
    unapplied_cons_of_not_mem hi, unapplied_cons_of_mem (List.mem_cons_self ..)]

/-- Whether the next one goes first alone or with all others behind it, what is left is
what is left. -/
theorem unapplied_eq_append {before rest passed applied' : List TransformIdentity}
    (hbefore : ∀ j ∈ before, j ∈ applied) (hi : i ∉ applied)
    (hpassed : passed = [i] ∨
      passed = i :: unapplied (before ++ i :: rest) (i :: applied))
    (happlied : ∀ j, j ∈ applied' ↔ j ∈ applied ∨ j ∈ passed) :
    unapplied (before ++ i :: rest) applied =
      passed ++ unapplied (before ++ i :: rest) applied' := by
  rcases hpassed with rfl | rfl
  · rw [unapplied_of_first hbefore hi, List.singleton_append]
    refine congrArg (i :: ·) (unapplied_congr fun j => ?_)
    rw [happlied, List.mem_cons, List.mem_singleton, or_comm]
  · -- all that was left has passed, so nothing of the list is left behind
    have hnone : unapplied (before ++ i :: rest) applied' = [] := by
      refine unapplied_eq_nil fun j hj => (happlied j).mpr ?_
      by_cases hold : j ∈ i :: applied
      · exact (List.mem_cons.mp hold).elim (fun h => .inr (h ▸ List.mem_cons_self ..)) .inl
      · exact .inr (List.mem_cons_of_mem _ (mem_unapplied.mpr ⟨hj, hold⟩))
    rw [hnone, List.append_nil]
    exact unapplied_of_first hbefore hi

theorem nodup_unapplied : (unapplied ids applied).Nodup := by
  induction ids generalizing applied with
  | nil => exact List.nodup_nil
  | cons i ids ih =>
    by_cases h : i ∈ applied
    · rw [unapplied_cons_of_mem h]
      exact ih
    · rw [unapplied_cons_of_not_mem h, List.nodup_cons]
      exact ⟨fun hi => (mem_unapplied.mp hi).2 (List.mem_cons_self ..), ih⟩

theorem length_unapplied_le : (unapplied ids applied).length ≤ ids.length :=
  (List.subperm_of_subset nodup_unapplied fun _ hi => (mem_unapplied.mp hi).1).length_le

/-- The more is applied, the less is left. -/
theorem length_unapplied_mono {applied' : List TransformIdentity}
    (h : ∀ j ∈ applied, j ∈ applied') :
    (unapplied ids applied').length ≤ (unapplied ids applied).length :=
  (List.subperm_of_subset nodup_unapplied fun _ hj =>
    mem_unapplied.mpr ((mem_unapplied.mp hj).imp_right fun hnew hold => hnew (h _ hold))).length_le

/-- Applying one that was left leaves fewer. -/
theorem length_unapplied_lt {applied' : List TransformIdentity} (hi : i ∈ ids)
    (hnew : i ∉ applied) (hi' : i ∈ applied') (h : ∀ j ∈ applied, j ∈ applied') :
    (unapplied ids applied').length < (unapplied ids applied).length := by
  have hnodup : (i :: unapplied ids applied').Nodup :=
    List.nodup_cons.mpr ⟨fun hmem => (mem_unapplied.mp hmem).2 hi', nodup_unapplied⟩
  refine (List.subperm_of_subset hnodup fun j hj => ?_).length_le
  rcases List.mem_cons.mp hj with rfl | hj
  · exact mem_unapplied.mpr ⟨hi, hnew⟩
  · exact mem_unapplied.mpr ((mem_unapplied.mp hj).imp_right fun hnew' hold => hnew' (h _ hold))

end Unapplied

/-! ### Numbering -/

namespace RunState

/-- The number has been given to a program. -/
def Made (state : RunState W) (id : ProgramId) : Prop := id.number < state.nextId.number

/-- Programs are numbered in the order in which they are made, so none that is yet to be
made has an entry. -/
def Numbered (state : RunState W) : Prop :=
  ∀ id, ¬ state.Made id → state.lineage.find? id = none

theorem not_made_nextId (state : RunState W) : ¬ state.Made state.nextId := Nat.lt_irrefl _

theorem made_derive {state : RunState W} {invocation : Invocation} {roots : List String}
    {id : ProgramId} :
    (state.derive invocation roots).2.Made id ↔ state.Made id ∨ id = state.nextId := by
  obtain ⟨n⟩ := id
  have hid : (⟨n⟩ : ProgramId) = state.nextId ↔ n = state.nextId.number := by
    rw [ProgramId.mk.injEq]
  rw [hid]
  exact Nat.lt_succ_iff_lt_or_eq

end RunState

end TransformerEngine
