import Mathlib.Data.List.Nodup
import TransformerEngine.Proofs.Lineage.Entries

/-!
# Forgetting programs that are gone

Programs are made and dropped, they inherit and are reported on, and now and then the
lineages forget those that are gone. Whoever asks about a program that is still there
cannot tell whether, and when, anything was forgotten (`prune_unobservable`).

What an entry says is copied into the entry of a child and not looked up through the
parent's, so two courses of things in which the living programs have the same entries go
on in the same way (`Population.Agrees.step`). Forgetting touches no living program's
entry. That an entry once forgotten does not come back empty is because numbers are not
used again (`Population.Numbered`): a program that inherits or is reported on is there, and
one that is gone stays so.
-/

namespace TransformerEngine

/-- As many entries are forgotten as there are programs that have one and are gone. -/
theorem Lineage.prune_count (lineage : Lineage) (live : ProgramId → Bool) :
    (lineage.prune live).2 = (lineage.entries.keys.filter fun id => !live id).length := by
  have hparts := lineage.entries.entries.length_eq_length_filter_add fun e => live e.1
  have hkeys : (lineage.entries.keys.filter fun id => !live id).length =
      (lineage.entries.entries.filter fun e => !live e.1).length := by
    rw [Table.keys, Entries.keys, List.filter_map, List.length_map]
    rfl
  simp only [prune, Table.size, Table.filter]
  omega

/-! ### Populations -/

/-- The programs that are there, in the order in which they were made, and the lineages.
Programs that are gone may still have an entry, but their numbers are not used again. -/
structure Population where
  alive : List Program := []
  nextId : ProgramId
  lineage : Lineage := Lineage.empty

/-- What may happen to a population. -/
inductive Change where
  | make (roots : List String) (options : CompilerOptions) (host : CompilerHost)
  /-- Nobody holds the program any longer. -/
  | drop (program : Program)
  | inherit (parent child : Program) (extra : List TransformIdentity)
  | report (program : Program) (d : Diagnostic)
  /-- The programs that are gone are forgotten. -/
  | prune

/-- Whether the change is that programs are forgotten. -/
def Change.isPruning : Change → Bool
  | .prune => true
  | _ => false

namespace Population

/-- Whether the program of a number is there. -/
def lives (now : Population) (id : ProgramId) : Bool := now.alive.any fun p => p.id = id

/-- The population after a change, if it can happen: a program that inherits, is inherited
from, is reported on or is dropped is there. -/
def step (now : Population) : Change → Option Population
  | .make roots options host =>
    some { now with
      alive := now.alive ++ [Program.create roots options host now.nextId]
      nextId := now.nextId.next }
  | .drop program =>
    if program ∈ now.alive then some { now with alive := now.alive.filter (· ≠ program) }
    else none
  | .inherit parent child extra =>
    if parent ∈ now.alive ∧ child ∈ now.alive then
      some { now with lineage := now.lineage.inherit parent child extra }
    else none
  | .report program d =>
    if program ∈ now.alive then some { now with lineage := now.lineage.report program d }
    else none
  | .prune => some { now with lineage := (now.lineage.prune now.lives).1 }

/-- The population after changes, one after another. -/
def run (now : Population) : List Change → Option Population
  | [] => some now
  | change :: rest => (now.step change).bind fun next => next.run rest

theorem lives_of_mem {now : Population} {p : Program} (h : p ∈ now.alive) :
    now.lives p.id = true :=
  List.any_eq_true.mpr ⟨p, h, decide_eq_true rfl⟩

section Step

variable {now next : Population} {program parent child : Program}

theorem step_drop : now.step (.drop program) = some next ↔
    program ∈ now.alive ∧ { now with alive := now.alive.filter (· ≠ program) } = next := by
  rw [step, Option.ite_none_right_eq_some, Option.some_inj]

theorem step_inherit {extra : List TransformIdentity} :
    now.step (.inherit parent child extra) = some next ↔
      (parent ∈ now.alive ∧ child ∈ now.alive) ∧
        { now with lineage := now.lineage.inherit parent child extra } = next := by
  rw [step, Option.ite_none_right_eq_some, Option.some_inj]

theorem step_report {d : Diagnostic} : now.step (.report program d) = some next ↔
    program ∈ now.alive ∧ { now with lineage := now.lineage.report program d } = next := by
  rw [step, Option.ite_none_right_eq_some, Option.some_inj]

end Step

/-! ### Programs are numbered as they are made -/

/-- All programs that are there have numbers that were given out, each its own, and no
number that is yet to be given out has an entry. -/
structure Numbered (now : Population) : Prop where
  made : ∀ p ∈ now.alive, p.id.number < now.nextId.number
  nodup : (now.alive.map Program.id).Nodup
  new : ∀ id, now.nextId.number ≤ id.number → now.lineage.find? id = none

namespace Numbered

variable {now next : Population}

theorem ne_of_mem (h : now.Numbered) {p : Program} (hp : p ∈ now.alive) {id : ProgramId}
    (hid : now.nextId.number ≤ id.number) : id ≠ p.id := by
  rintro rfl
  exact Nat.lt_irrefl _ (Nat.lt_of_le_of_lt hid (h.made p hp))

/-- Programs that are there are told apart by their numbers. -/
theorem eq_of_id (h : now.Numbered) {p q : Program} (hp : p ∈ now.alive) (hq : q ∈ now.alive)
    (hid : p.id = q.id) : p = q :=
  List.inj_on_of_nodup_map h.nodup hp hq hid

theorem make (h : now.Numbered) (roots : List String) (options : CompilerOptions)
    (host : CompilerHost) :
    Numbered { now with
      alive := now.alive ++ [Program.create roots options host now.nextId]
      nextId := now.nextId.next } where
  made := by
    intro p hp
    rcases List.mem_append.mp hp with hold | hnew
    · exact Nat.lt_succ_of_lt (h.made p hold)
    · rw [List.mem_singleton.mp hnew]
      exact Nat.lt_succ_self _
  nodup := by
    have hfresh : now.nextId ∉ now.alive.map Program.id := by
      intro hmem
      obtain ⟨p, hp, hid⟩ := List.mem_map.mp hmem
      exact h.ne_of_mem hp (Nat.le_refl _) hid.symm
    rw [List.map_append]
    refine List.nodup_append.mpr ⟨h.nodup, List.nodup_singleton _, ?_⟩
    intro id hid id' hid'
    rw [List.mem_singleton.mp hid']
    exact ne_of_mem_of_not_mem hid hfresh
  new := by
    intro id hid
    exact h.new id (Nat.le_of_succ_le hid)

/-- **Numbers stay in order.** -/
theorem step (h : now.Numbered) {change : Change} (hstep : now.step change = some next) :
    next.Numbered := by
  cases change with
  | make roots options host =>
    obtain rfl := Option.some.inj hstep
    exact h.make roots options host
  | drop program =>
    obtain ⟨-, rfl⟩ := step_drop.mp hstep
    -- fewer programs are there, and the lineages are as they were
    have hsub : (now.alive.filter (· ≠ program)).Sublist now.alive := List.filter_sublist
    exact ⟨fun p hp => h.made p (hsub.subset hp), h.nodup.sublist (hsub.map _), h.new⟩
  | inherit parent child extra =>
    obtain ⟨⟨-, hchild⟩, rfl⟩ := step_inherit.mp hstep
    -- only the child, who is there, may have got an entry
    refine ⟨h.made, h.nodup, fun id hid => ?_⟩
    have hne : id ≠ child.id := h.ne_of_mem hchild hid
    rw [Lineage.find?_inherit_of_ne hne, h.new id hid]
  | report program d =>
    obtain ⟨hprogram, rfl⟩ := step_report.mp hstep
    refine ⟨h.made, h.nodup, fun id hid => ?_⟩
    have hne : id ≠ program.id := h.ne_of_mem hprogram hid
    rw [Lineage.find?_report_of_ne hne, h.new id hid]
  | prune =>
    obtain rfl := Option.some.inj hstep
    refine ⟨h.made, h.nodup, fun id hid => ?_⟩
    rw [Lineage.find?_prune, h.new id hid, ite_self]

end Numbered

/-! ### Populations whose living programs have the same lineages -/

/-- The same programs are there, and their entries are the same. -/
structure Agrees (one other : Population) : Prop where
  alive : other.alive = one.alive
  nextId : other.nextId = one.nextId
  entries : ∀ p ∈ one.alive, other.lineage.find? p.id = one.lineage.find? p.id

theorem Agrees.refl (one : Population) : one.Agrees one := ⟨rfl, rfl, fun _ _ => rfl⟩

namespace Agrees

variable {one other next : Population}

/-- Whatever changes one of them, other than forgetting, changes the other alike. -/
theorem step (h : one.Agrees other) (hone : one.Numbered) (hother : other.Numbered)
    {change : Change} (hkeeps : change.isPruning = false) (hstep : one.step change = some next) :
    ∃ next', other.step change = some next' ∧ next.Agrees next' := by
  cases change with
  | make roots options host =>
    obtain rfl := Option.some.inj hstep
    refine ⟨_, rfl, by rw [h.alive, h.nextId], by rw [h.nextId], fun p hp => ?_⟩
    rcases List.mem_append.mp hp with hold | hnew
    · exact h.entries p hold
    · -- the new program has no entry in either lineage
      have hentry : one.lineage.find? one.nextId = none := hone.new _ (Nat.le_refl _)
      have hentry' : other.lineage.find? one.nextId = none := by
        rw [← h.nextId]
        exact hother.new _ (Nat.le_refl _)
      rw [List.mem_singleton.mp hnew]
      exact hentry'.trans hentry.symm
  | drop program =>
    obtain ⟨hprogram, rfl⟩ := step_drop.mp hstep
    refine ⟨_, step_drop.mpr ⟨h.alive ▸ hprogram, rfl⟩, by rw [h.alive], h.nextId, ?_⟩
    intro p hp
    exact h.entries p (List.mem_of_mem_filter hp)
  | inherit parent child extra =>
    obtain ⟨⟨hparent, hchild⟩, rfl⟩ := step_inherit.mp hstep
    have hthere : parent ∈ other.alive ∧ child ∈ other.alive := by
      rw [h.alive]
      exact ⟨hparent, hchild⟩
    refine ⟨_, step_inherit.mpr ⟨hthere, rfl⟩, h.alive, h.nextId, fun p hp => ?_⟩
    -- what is handed down is read off the entries of two living programs
    have hentry : other.lineage.inheritedEntry parent child extra =
        one.lineage.inheritedEntry parent child extra :=
      Lineage.inheritedEntry_congr (h.entries parent hparent) (h.entries child hchild)
    rw [Lineage.find?_inherit, Lineage.find?_inherit, hentry, h.entries p hp]
  | report program d =>
    obtain ⟨hprogram, rfl⟩ := step_report.mp hstep
    refine ⟨_, step_report.mpr ⟨h.alive ▸ hprogram, rfl⟩, h.alive, h.nextId, fun p hp => ?_⟩
    have hentry : other.lineage.entryOf program = one.lineage.entryOf program :=
      Lineage.entryOf_congr (h.entries program hprogram)
    rw [Lineage.find?_report, Lineage.find?_report, hentry, h.entries p hp]
  | prune => exact Bool.noConfusion hkeeps

/-- If one of them forgets programs that are gone, they agree as before. -/
theorem prune (h : one.Agrees other) (hstep : one.step .prune = some next) :
    next.Agrees other := by
  obtain rfl := Option.some.inj hstep
  refine ⟨h.alive, h.nextId, fun p hp => ?_⟩
  have halive : one.lives p.id = true := lives_of_mem hp
  have hkept : (one.lineage.prune one.lives).1.find? p.id = one.lineage.find? p.id := by
    rw [Lineage.find?_prune, if_pos halive]
  exact (h.entries p hp).trans hkept.symm

/-- **From changes to courses of changes.** The one that forgets now and then agrees at the
end with the one that never does. -/
theorem run (h : one.Agrees other) (hone : one.Numbered) (hother : other.Numbered)
    {changes : List Change} (hrun : one.run changes = some next) :
    next.Numbered ∧ ∃ next', other.run (changes.filter fun c => !c.isPruning) = some next' ∧
      next.Agrees next' := by
  induction changes generalizing one other with
  | nil =>
    obtain rfl := Option.some.inj hrun
    exact ⟨hone, other, rfl, h⟩
  | cons change rest ih =>
    obtain ⟨middle, hstep, hrest⟩ := Option.bind_eq_some_iff.mp hrun
    have hmiddle : middle.Numbered := hone.step hstep
    cases hkeeps : change.isPruning with
    | true =>
      -- the other one stands still meanwhile
      have hprune : change = .prune := by
        cases change <;> first | rfl | exact Bool.noConfusion hkeeps
      rw [List.filter_cons_of_neg (by rw [hkeeps]; exact Bool.false_ne_true)]
      exact ih (h.prune (hprune ▸ hstep)) hmiddle hother hrest
    | false =>
      obtain ⟨middle', hstep', hagrees⟩ := h.step hone hother hkeeps hstep
      obtain ⟨hnext, next', hrun', hfinal⟩ := ih hagrees hmiddle (hother.step hstep') hrest
      refine ⟨hnext, next', ?_, hfinal⟩
      rw [List.filter_cons_of_pos (by rw [hkeeps]; rfl)]
      exact Option.bind_eq_some_iff.mpr ⟨middle', hstep', hrun'⟩

end Agrees

/-- Nobody is there yet, and nothing is known of anybody. -/
def start (first : ProgramId) : Population := { nextId := first }

theorem numbered_start (first : ProgramId) : (start first).Numbered where
  made _ hp := absurd hp List.not_mem_nil
  nodup := List.nodup_nil
  new _ _ := rfl

end Population

namespace Sample

/-- A host without files. -/
def nowhere : CompilerHost := ({ currentDirectory := "/" } : MemoryHost).toHost

def elder : Program := .create ["elder.ts"] {} nowhere ⟨1⟩

def heir : Program := .create [] {} nowhere ⟨2⟩

def youngest : Program := .create [] {} nowhere ⟨3⟩

/-- `elder` is forgotten before `heir` hands on what it has from it, and is gone too then. -/
def generations : List Change :=
  [.make ["elder.ts"] {} nowhere, .report elder (.error 1 "old"), .make [] {} nowhere,
    .inherit elder heir [⟨"rename", none, .program⟩], .drop elder, .prune,
    .make [] {} nowhere, .inherit heir youngest [], .drop heir]

/-- What is left then. -/
def remaining : Population := ((Population.start ⟨1⟩).run generations).getD (.start ⟨1⟩)

end Sample

/-- **Forgetting is not noticed.** Whenever and however often programs that are gone are
forgotten in a course of changes, the course could have gone on in the same way without,
with the same programs being there in the end, and about each of these every question has
the same answer. No two of them share a number, and forgetting the others now removes the
entries of those, and no other, and counts them. -/
theorem prune_unobservable {first : ProgramId} {changes : List Change} {now : Population}
    (course : (Population.start first).run changes = some now) :
    (∃ unpruned,
      (Population.start first).run (changes.filter fun c => !c.isPruning) = some unpruned ∧
      unpruned.alive = now.alive ∧
      ∀ program ∈ now.alive,
        (∀ identity, now.lineage.isApplied program.id identity =
          unpruned.lineage.isApplied program.id identity) ∧
        now.lineage.appliedCount program.id = unpruned.lineage.appliedCount program.id ∧
        now.lineage.diagnostics program.id = unpruned.lineage.diagnostics program.id ∧
        now.lineage.originRoots program = unpruned.lineage.originRoots program) ∧
    (∀ p ∈ now.alive, ∀ q ∈ now.alive, p.id = q.id → p = q) ∧
    (∀ id, (now.lineage.prune now.lives).1.find? id =
      if now.lives id then now.lineage.find? id else none) ∧
    (now.lineage.prune now.lives).2 =
      (now.lineage.entries.keys.filter fun id => !now.lives id).length := by
  have hstart := Population.numbered_start first
  obtain ⟨hnow, unpruned, hrun, hagrees⟩ :=
    (Population.Agrees.refl (Population.start first)).run hstart hstart course
  refine ⟨⟨unpruned, hrun, hagrees.alive, fun program hp => ?_⟩,
    fun p hp q hq hid => hnow.eq_of_id hp hq hid, now.lineage.find?_prune now.lives,
    now.lineage.prune_count now.lives⟩
  have hentry := hagrees.entries program hp
  have happlied := Lineage.applied_congr hentry
  refine ⟨fun identity => ?_, ?_, (Lineage.diagnostics_congr hentry).symm,
    (Lineage.originRoots_congr hentry).symm⟩
  · rw [Lineage.isApplied, Lineage.isApplied, happlied]
  · rw [Lineage.appliedCount, Lineage.appliedCount, happlied]

/-- What `elder` started is known of `youngest` when the other two are gone, and all that
there is to be forgotten is the entry of `heir`. -/
theorem prune_unobservable_sample :
    Sample.remaining.alive = [Sample.youngest] ∧
    (∃ unpruned,
      (Population.start ⟨1⟩).run (Sample.generations.filter fun c => !c.isPruning) =
        some unpruned ∧
      unpruned.lineage.originRoots Sample.youngest = ["elder.ts"] ∧
      unpruned.lineage.appliedCount Sample.youngest.id = 1 ∧
      unpruned.lineage.diagnostics Sample.youngest.id = [.error 1 "old"]) ∧
    (Sample.remaining.lineage.prune Sample.remaining.lives).2 = 1 := by
  have hrun : (Population.start ⟨1⟩).run Sample.generations = some Sample.remaining := rfl
  have halive : Sample.youngest ∈ Sample.remaining.alive := List.mem_singleton_self _
  obtain ⟨⟨unpruned, hcourse, -, hanswers⟩, -, -, hcount⟩ := prune_unobservable hrun
  obtain ⟨-, hcounts, hreports, horigin⟩ := hanswers _ halive
  exact ⟨rfl, ⟨unpruned, hcourse, horigin.symm, hcounts.symm, hreports.symm⟩, hcount⟩

end TransformerEngine
