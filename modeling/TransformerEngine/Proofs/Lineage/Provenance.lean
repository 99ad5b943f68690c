import Mathlib.Data.List.Induction
import Mathlib.Logic.Function.Basic
import TransformerEngine.Proofs.Lineage.Keeping

/-!
# Where reports come from

Reports are copied from line to line, through chains and diamonds of inheritance, and yet
no line has any of them twice (`record_keeps`).

To say so, reports have to be told apart even if they are equal. So a course of changes is
taken with other reports in place of its own (`reportingEach`), where the lines of descent
are the same and only the reports are others. For every line there is one list of *calls*,
positions in the course at which something is reported, that says what is on the line
whatever is reported there (`Population.exists_calls`). What is on a line comes from these
calls and from nowhere else, and none of them is on the list twice.

The lists are followed change by change (`Population.spread`): a report is a call on the
line of its program, and who joins a line has the calls of the line that it joins. The
position of a report is new, and nobody joins a line twice.
-/

namespace TransformerEngine

/-! ### Courses with other reports -/

namespace Change

/-- What the change reports. -/
def report? : Change → Option Diagnostic
  | .report _ d => some d
  | _ => none

/-- The change, with `d` in place of what it reports. -/
def reporting (d : Diagnostic) : Change → Change
  | .report program _ => .report program d
  | change => change

theorem reporting_of_report? {change : Change} {d : Diagnostic}
    (h : ∀ d', change.report? = some d' → d' = d) : change.reporting d = change := by
  cases change with
  | report program d' => rw [reporting, h d' rfl]
  | _ => rfl

end Change

/-- The changes, with `reported k` in place of what the one at position `k` reports. -/
def reportingEach (reported : Nat → Diagnostic) (changes : List Change) : List Change :=
  changes.mapIdx fun k change => change.reporting (reported k)

theorem reportingEach_concat (reported : Nat → Diagnostic) (changes : List Change)
    (change : Change) :
    reportingEach reported (changes ++ [change]) =
      reportingEach reported changes ++ [change.reporting (reported changes.length)] :=
  List.mapIdx_concat

/-- What is reported at a position of a course. -/
def reportAt (changes : List Change) (k : Nat) : Option Diagnostic :=
  changes[k]?.bind Change.report?

/-- With what it reports anyway a course is what it was. -/
theorem reportingEach_reportAt (changes : List Change) (otherwise : Diagnostic) :
    reportingEach (fun k => (reportAt changes k).getD otherwise) changes = changes := by
  refine List.ext_getElem? fun k => ?_
  rw [reportingEach, List.getElem?_mapIdx]
  cases hk : changes[k]? with
  | none => rfl
  | some change =>
    refine congrArg some (Change.reporting_of_report? fun d hd => ?_)
    rw [reportAt, hk, Option.bind_some, hd, Option.getD_some]

/-! ### Calls -/

/-- The calls that have come to be on each line, by their positions in a course. -/
abbrev Calls := ProgramId → List Nat

/-- No line has a call twice, and all calls are reports of the course. -/
structure Calls.Of (changes : List Change) (calls : Calls) : Prop where
  nodup : ∀ id, (calls id).Nodup
  reports : ∀ id, ∀ k ∈ calls id, ∃ program d, changes[k]? = some (.report program d)

namespace Population

variable {first : ProgramId} {now next other : Population} {calls : Calls} {change : Change}
variable {changes : List Change} {k : Nat} {reported : Nat → Diagnostic} {id : ProgramId}

theorem run_concat (now : Population) (changes : List Change) (change : Change) :
    now.run (changes ++ [change]) = (now.run changes).bind fun next => next.step change := by
  induction changes generalizing now with
  | nil => exact Option.bind_fun_some (now.step change)
  | cons head rest ih =>
    rw [List.cons_append, run, run, Option.bind_assoc]
    exact congrArg _ (funext ih)

/-- The calls after the change at position `k`. -/
def spread (now : Population) (k : Nat) (calls : Calls) : Change → Calls
  | .inherit parent child _ =>
    if (now.lineage.find? child.id).isSome ∨ child.id = parent.id then calls
    else Function.update calls child.id (calls parent.id)
  | .report program _ => Function.update calls program.id (calls program.id ++ [k])
  | .prune => fun id => if now.lives id then calls id else []
  | .make .. | .drop _ => calls

theorem spread_inherit_of_ne {parent child : Program} {extra : List TransformIdentity}
    (hid : id ≠ child.id) : now.spread k calls (.inherit parent child extra) id = calls id := by
  rw [spread]
  split
  · rfl
  · exact Function.update_of_ne hid ..

theorem spread_report_of_ne {program : Program} {d : Diagnostic} (hid : id ≠ program.id) :
    now.spread k calls (.report program d) id = calls id :=
  Function.update_of_ne hid ..

theorem spread_prune :
    now.spread k calls .prune id = if now.lives id then calls id else [] := rfl

/-- After a change a line has no calls, or those of a line before, or one call more that
is the change itself. -/
theorem spread_cases (now : Population) (k : Nat) (calls : Calls) (change : Change)
    (id : ProgramId) :
    now.spread k calls change id = [] ∨ (∃ id', now.spread k calls change id = calls id') ∨
      (∃ program d, change = .report program d) ∧
        now.spread k calls change id = calls id ++ [k] := by
  cases change with
  | make roots options host => exact .inr (.inl ⟨id, rfl⟩)
  | drop program => exact .inr (.inl ⟨id, rfl⟩)
  | inherit parent child extra =>
    rw [spread]
    split
    · exact .inr (.inl ⟨id, rfl⟩)
    · by_cases hid : id = child.id
      · subst hid
        exact .inr (.inl ⟨parent.id, Function.update_self ..⟩)
      · exact .inr (.inl ⟨id, Function.update_of_ne hid ..⟩)
  | report program d =>
    by_cases hid : id = program.id
    · subst hid
      exact .inr (.inr ⟨⟨program, d, rfl⟩, Function.update_self ..⟩)
    · exact .inr (.inl ⟨id, spread_report_of_ne hid⟩)
  | prune =>
    by_cases hlives : now.lives id = true
    · exact .inr (.inl ⟨id, if_pos hlives⟩)
    · exact .inl (if_neg hlives)

/-- **No change puts a call on a line twice.** -/
theorem of_spread (h : calls.Of changes) (now : Population) (change : Change) :
    Calls.Of (changes ++ [change]) (now.spread changes.length calls change) := by
  have hbefore : ∀ id, ∀ k ∈ calls id, k < changes.length ∧
      ∃ program d, (changes ++ [change])[k]? = some (.report program d) := by
    intro id k hk
    obtain ⟨program, d, hreport⟩ := h.reports id k hk
    have hlt : k < changes.length := (List.getElem?_eq_some_iff.mp hreport).1
    exact ⟨hlt, program, d, by rw [List.getElem?_append_left hlt, hreport]⟩
  constructor
  · intro id
    rcases now.spread_cases changes.length calls change id with heq | ⟨id', heq⟩ | ⟨-, heq⟩
    · rw [heq]
      exact List.nodup_nil
    · rw [heq]
      exact h.nodup id'
    · -- the position of the change is behind those of all calls so far
      rw [heq]
      refine List.nodup_append.mpr ⟨h.nodup id, List.nodup_singleton _, fun k hk k' hk' => ?_⟩
      rw [List.mem_singleton.mp hk']
      exact Nat.ne_of_lt (hbefore id k hk).1
  · intro id k hk
    rcases now.spread_cases changes.length calls change id with
      heq | ⟨id', heq⟩ | ⟨⟨program, d, rfl⟩, heq⟩
    · exact absurd (heq ▸ hk) List.not_mem_nil
    · exact (hbefore id' k (heq ▸ hk)).2
    · rcases List.mem_append.mp (heq ▸ hk) with hold | hnew
      · exact (hbefore id k hold).2
      · rw [List.mem_singleton.mp hnew]
        exact ⟨program, d, List.getElem?_concat_length⟩

/-! ### The same lines with other reports -/

/-- The other population is the same but for what was reported: each line has what was
`reported` by the calls that are on it. A line without an entry has no calls. -/
structure Tells (calls : Calls) (reported : Nat → Diagnostic) (now other : Population) :
    Prop where
  alive : other.alive = now.alive
  nextId : other.nextId = now.nextId
  entries : ∀ id, other.lineage.find? id =
    (now.lineage.find? id).map fun entry =>
      { entry with diagnostics := (calls id).map reported }
  silent : ∀ id, now.lineage.find? id = none → calls id = []

namespace Tells

theorem diagnostics (h : Tells calls reported now other) (id : ProgramId) :
    other.lineage.diagnostics id = (calls id).map reported := by
  unfold Lineage.diagnostics
  rw [h.entries]
  cases hentry : now.lineage.find? id with
  | none => rw [h.silent id hentry]; rfl
  | some entry => rfl

theorem isSome_find? (h : Tells calls reported now other) (id : ProgramId) :
    (other.lineage.find? id).isSome = (now.lineage.find? id).isSome := by
  rw [h.entries, Option.isSome_map]

theorem entryOf (h : Tells calls reported now other) (program : Program) :
    other.lineage.entryOf program =
      { now.lineage.entryOf program with diagnostics := (calls program.id).map reported } := by
  unfold Lineage.entryOf
  rw [h.entries]
  cases hentry : now.lineage.find? program.id with
  | none => rw [h.silent program.id hentry]; rfl
  | some entry => rfl

/-- What a child inherits is the same but for the reports, which are those of the calls
that it has from then on. -/
theorem inheritedEntry (h : Tells calls reported now other) (parent child : Program)
    (extra : List TransformIdentity) :
    other.lineage.inheritedEntry parent child extra =
      { now.lineage.inheritedEntry parent child extra with
        diagnostics :=
          (now.spread k calls (.inherit parent child extra) child.id).map reported } := by
  unfold Lineage.inheritedEntry spread
  rw [h.entryOf parent, h.entryOf child, h.isSome_find? child.id]
  by_cases hjoined : (now.lineage.find? child.id).isSome = true ∨ child.id = parent.id
  · simp only [if_pos hjoined]
  · -- a child that is new has no calls of its own yet
    have hnone : calls child.id = [] := by
      refine h.silent child.id (Option.not_isSome_iff_eq_none.mp fun hsome => hjoined (.inl hsome))
    simp only [if_neg hjoined, Function.update_self, hnone, List.map_nil, List.nil_append]

theorem inherit (h : Tells calls reported now other) (parent child : Program)
    (extra : List TransformIdentity) :
    Tells (now.spread k calls (.inherit parent child extra)) reported
      { now with lineage := now.lineage.inherit parent child extra }
      { other with lineage := other.lineage.inherit parent child extra } where
  alive := h.alive
  nextId := h.nextId
  entries id := by
    by_cases hid : id = child.id
    · subst hid
      rw [Lineage.find?_inherit_self, Lineage.find?_inherit_self, Option.map_some,
        h.inheritedEntry (k := k)]
    · rw [Lineage.find?_inherit_of_ne hid, Lineage.find?_inherit_of_ne hid,
        spread_inherit_of_ne hid, h.entries]
  silent id hnone := by
    -- whoever has no entry now is not the child, and had none before
    have hid : id ≠ child.id := by
      rintro rfl
      rw [Lineage.find?_inherit_self] at hnone
      exact nomatch hnone
    rw [spread_inherit_of_ne hid]
    exact h.silent id ((Lineage.find?_inherit_of_ne hid).symm.trans hnone)

theorem report (h : Tells calls reported now other) (program : Program) (d : Diagnostic) :
    Tells (now.spread k calls (.report program d)) reported
      { now with lineage := now.lineage.report program d }
      { other with lineage := other.lineage.report program (reported k) } where
  alive := h.alive
  nextId := h.nextId
  entries id := by
    rw [Lineage.find?_report, Lineage.find?_report]
    by_cases hid : id = program.id
    · subst hid
      rw [if_pos rfl, if_pos rfl, spread, Function.update_self, h.entryOf program,
        List.map_append]
      rfl
    · rw [if_neg (Ne.symm hid), if_neg (Ne.symm hid), spread_report_of_ne hid, h.entries]
  silent id hnone := by
    rw [Lineage.find?_report] at hnone
    by_cases hid : id = program.id
    · rw [if_pos hid.symm] at hnone
      exact nomatch hnone
    · rw [if_neg (Ne.symm hid)] at hnone
      rw [spread_report_of_ne hid]
      exact h.silent id hnone

theorem prune (h : Tells calls reported now other) :
    Tells (now.spread k calls .prune) reported
      { now with lineage := (now.lineage.prune now.lives).1 }
      { other with lineage := (other.lineage.prune other.lives).1 } where
  alive := h.alive
  nextId := h.nextId
  entries id := by
    have hlives : other.lives id = now.lives id := by
      unfold lives
      rw [h.alive]
    rw [Lineage.find?_prune, Lineage.find?_prune, hlives, spread_prune]
    by_cases hid : now.lives id = true
    · rw [if_pos hid, if_pos hid, if_pos hid, h.entries]
    · rw [if_neg hid, if_neg hid, if_neg hid, Option.map_none]
  silent id hnone := by
    rw [Lineage.find?_prune] at hnone
    rw [spread_prune]
    by_cases hid : now.lives id = true
    · rw [if_pos hid] at hnone ⊢
      exact h.silent id hnone
    · exact if_neg hid

/-- **Whatever is reported, the lines are the same.** -/
theorem step (h : Tells calls reported now other) (hstep : now.step change = some next) :
    ∃ other', other.step (change.reporting (reported k)) = some other' ∧
      Tells (now.spread k calls change) reported next other' := by
  cases change with
  | make roots options host =>
    obtain rfl := Option.some.inj hstep
    exact ⟨_, rfl, by rw [h.alive, h.nextId], by rw [h.nextId], h.entries, h.silent⟩
  | drop program =>
    obtain ⟨hprogram, rfl⟩ := step_drop.mp hstep
    exact ⟨_, step_drop.mpr ⟨h.alive ▸ hprogram, rfl⟩, by rw [h.alive], h.nextId,
      h.entries, h.silent⟩
  | inherit parent child extra =>
    obtain ⟨hthere, rfl⟩ := step_inherit.mp hstep
    rw [← h.alive] at hthere
    exact ⟨_, step_inherit.mpr ⟨hthere, rfl⟩, h.inherit parent child extra⟩
  | report program d =>
    obtain ⟨hprogram, rfl⟩ := step_report.mp hstep
    exact ⟨_, step_report.mpr ⟨h.alive ▸ hprogram, rfl⟩, h.report program d⟩
  | prune =>
    obtain rfl := Option.some.inj hstep
    exact ⟨_, rfl, h.prune⟩

end Tells

/-- **Every line has its calls.** Whatever the reports of a course are, what is on a line in
the end is what was reported by the calls that are on it. -/
theorem exists_calls (course : (start first).run changes = some now) :
    ∃ calls : Calls, calls.Of changes ∧ ∀ reported, ∃ other,
      (start first).run (reportingEach reported changes) = some other ∧
      Tells calls reported now other := by
  induction changes using List.reverseRecOn generalizing now with
  | nil =>
    obtain rfl := Option.some.inj course
    refine ⟨fun _ => [], ⟨fun _ => List.nodup_nil, fun _ k hk => absurd hk List.not_mem_nil⟩, ?_⟩
    exact fun reported => ⟨_, rfl, rfl, rfl, fun _ => rfl, fun _ _ => rfl⟩
  | append_singleton changes change ih =>
    rw [run_concat, Option.bind_eq_some_iff] at course
    obtain ⟨before, hbefore, hstep⟩ := course
    obtain ⟨calls, hof, htells⟩ := ih hbefore
    refine ⟨before.spread changes.length calls change, of_spread hof before change, ?_⟩
    intro reported
    obtain ⟨other, hother, htell⟩ := htells reported
    obtain ⟨other', hstep', htell'⟩ := htell.step (k := changes.length) hstep
    refine ⟨other', ?_, htell'⟩
    rw [reportingEach_concat, run_concat, hother]
    exact hstep'

end Population

/-! A line that splits and is joined again. -/

namespace Sample

def trunk : Program := .create ["trunk.ts"] {} nowhere ⟨1⟩

def leftBranch : Program := .create [] {} nowhere ⟨2⟩

def rightBranch : Program := .create [] {} nowhere ⟨3⟩

def crown : Program := .create [] {} nowhere ⟨4⟩

/-- `crown` is inherited to along both branches, twice along one of them, and by itself. One
of the branches and the crown are reported the same. -/
def branching : List Change :=
  [.make ["trunk.ts"] {} nowhere, .make [] {} nowhere, .make [] {} nowhere, .make [] {} nowhere,
    .report trunk (.error 1 "old"), .inherit trunk leftBranch [⟨"left", none, .program⟩],
    .inherit trunk rightBranch [⟨"right", none, .program⟩],
    .report leftBranch (.error 2 "same"), .inherit leftBranch crown [],
    .inherit rightBranch crown [], .inherit leftBranch crown [], .inherit crown crown [],
    .report crown (.error 2 "same")]

/-- What there is then. -/
def branched : Population := ((Population.start ⟨1⟩).run branching).getD (.start ⟨1⟩)

/-- What happens afterwards: the branches are gone. -/
def pruning : List Change :=
  [.drop leftBranch, .drop rightBranch, .prune, .report crown (.error 3 "late")]

def pruned : Population := (branched.run pruning).getD (.start ⟨1⟩)

end Sample

/-- **What the record keeps.** In whatever course of changes programs inherit, are reported
on and are forgotten:

* a child has been through what it had been through, what its parent had, and what was
  added, each once; and neither that nor a report changes anybody else's entry.
* As long as a program is there, whatever happens, no transform is taken from it, its
  reports are only added to at the end, and the origin that is recorded for it stays.
* For every line there is a list of calls, positions at which something was reported, none
  of them twice, and the reports on the line are what these calls reported, call by call.
  This is no coincidence of equal reports: whatever else they had reported, the reports on
  the line would be that. -/
theorem record_keeps {first : ProgramId} {changes : List Change} {now : Population}
    (course : (Population.start first).run changes = some now) :
    ((∀ parent child extra,
        (∀ i, i ∈ (now.lineage.inherit parent child extra).applied child.id ↔
          i ∈ now.lineage.applied child.id ∨ i ∈ now.lineage.applied parent.id ∨ i ∈ extra) ∧
        ∀ id ≠ child.id,
          (now.lineage.inherit parent child extra).find? id = now.lineage.find? id) ∧
      (∀ program d, ∀ id ≠ program.id,
        (now.lineage.report program d).find? id = now.lineage.find? id) ∧
      ∀ id, (now.lineage.applied id).Nodup) ∧
    (∀ more later, now.run more = some later → ∀ program ∈ now.alive, program ∈ later.alive →
      now.lineage.applied program.id ⊆ later.lineage.applied program.id ∧
      now.lineage.diagnostics program.id <+: later.lineage.diagnostics program.id ∧
      ∀ entry, now.lineage.find? program.id = some entry →
        ∃ after, later.lineage.find? program.id = some after ∧
          after.originRoots = entry.originRoots) ∧
    ∃ calls : ProgramId → List Nat,
      (∀ id, (calls id).Nodup ∧
        (∀ k ∈ calls id, ∃ program d, changes[k]? = some (.report program d)) ∧
        (now.lineage.diagnostics id).map some = (calls id).map (reportAt changes)) ∧
      ∀ reported : Nat → Diagnostic, ∃ other,
        (Population.start first).run (reportingEach reported changes) = some other ∧
        ∀ id, other.lineage.diagnostics id = (calls id).map reported := by
  have hnumbered : now.Numbered := (Population.numbered_start first).run course
  have honce : now.AppliedOnce := by
    have hstart : (Population.start first).AppliedOnce := fun _ => List.nodup_nil
    exact Population.run_invariant (fun h hstep => h.step hstep) hstart course
  refine ⟨⟨fun parent child extra => ⟨fun i => ?_, fun id hid => ?_⟩, fun program d id hid => ?_,
    honce⟩, fun more later hmore program hnow hlater => ?_, ?_⟩
  · rw [Lineage.mem_applied_inherit, and_iff_right rfl]
  · exact Lineage.find?_inherit_of_ne hid
  · exact Lineage.find?_report_of_ne hid
  · cases hentry : now.lineage.find? program.id with
    | none =>
      -- nothing is recorded yet
      rw [Lineage.applied, Lineage.diagnostics, hentry]
      exact ⟨List.nil_subset _, List.nil_prefix,
        fun entry h => absurd h.symm (Option.some_ne_none entry)⟩
    | some entry =>
      obtain ⟨after, hafter, hextends⟩ :=
        Population.run_extends hnumbered hnow hlater hentry hmore
      rw [Lineage.applied_of_find? hentry, Lineage.applied_of_find? hafter,
        Lineage.diagnostics_of_find? hentry, Lineage.diagnostics_of_find? hafter]
      refine ⟨hextends.applied, hextends.diagnostics, fun entry' hentry' => ?_⟩
      obtain rfl := Option.some.inj hentry'
      exact ⟨after, hafter, hextends.originRoots⟩
  · obtain ⟨calls, hof, htells⟩ := Population.exists_calls course
    have hown : ∀ id,
        (now.lineage.diagnostics id).map some = (calls id).map (reportAt changes) := by
      intro id
      -- with its own reports the course comes to what it came to
      obtain ⟨other, hother, htell⟩ :=
        htells fun k => (reportAt changes k).getD (.error 0 "")
      rw [reportingEach_reportAt, course] at hother
      obtain rfl := Option.some.inj hother
      rw [htell.diagnostics, List.map_map]
      refine List.map_congr_left fun k hk => ?_
      obtain ⟨program, d, hreport⟩ := hof.reports id k hk
      rw [Function.comp_apply, reportAt, hreport]
      rfl
    refine ⟨calls, fun id => ⟨hof.nodup id, hof.reports id, hown id⟩, fun reported => ?_⟩
    obtain ⟨other, hother, htell⟩ := htells reported
    exact ⟨other, hother, htell.diagnostics⟩

/-- `crown` has its three reports once, though two ways lead to it; of two equal ones it has
both. It keeps them, and its origin, when the branches are forgotten. -/
theorem record_keeps_sample :
    (Population.start ⟨1⟩).run Sample.branching = some Sample.branched ∧
    Sample.branched.run Sample.pruning = some Sample.pruned ∧
    (∃ calls : ProgramId → List Nat, (calls Sample.crown.id).Nodup ∧
      (calls Sample.crown.id).map (reportAt Sample.branching) =
        [some (.error 1 "old"), some (.error 2 "same"), some (.error 2 "same")]) ∧
    [.error 1 "old", .error 2 "same", .error 2 "same"] <+:
      Sample.pruned.lineage.diagnostics Sample.crown.id ∧
    ∃ after, Sample.pruned.lineage.find? Sample.crown.id = some after ∧
      after.originRoots = ["trunk.ts"] := by
  have hcourse : (Population.start ⟨1⟩).run Sample.branching = some Sample.branched := rfl
  have hmore : Sample.branched.run Sample.pruning = some Sample.pruned := rfl
  have hthere : Sample.crown ∈ Sample.branched.alive := by decide
  have hlater : Sample.crown ∈ Sample.pruned.alive := by decide
  obtain ⟨-, hkept, calls, hcalls, -⟩ := record_keeps hcourse
  obtain ⟨-, hreports, horigin⟩ := hkept _ _ hmore _ hthere hlater
  obtain ⟨hnodup, -, hmap⟩ := hcalls Sample.crown.id
  exact ⟨hcourse, hmore, ⟨calls, hnodup, hmap.symm⟩, hreports, horigin _ rfl⟩

end TransformerEngine
