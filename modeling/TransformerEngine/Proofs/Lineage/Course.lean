import Mathlib.Logic.Relation
import TransformerEngine.Proofs.Lineage.Outcome
import TransformerEngine.Proofs.Lineage.Termination

/-!
# The course of a run

`Finishes` says what a run comes to. What is going on while it is under way is said by
its moments: a `Moment` is a task that is taken up and the state in which it is, and
`Moment.Leads` takes one moment to the next. A task that calls for another one leads to
that one, and also to the moment after it has finished, so that every moment of every
invocation, however deep it is nested, is reached from the first one (`Moment.Reaches`).
None is left out: whatever the journal of a run lists happened at such a moment
(`Finishes.tells`).

Two ways to carry facts along a course:

* `CourseRelation`: a relation between states that every single step stands in, and that
  holds across steps. It holds from the beginning to the end of every task
  (`CourseRelation.finishes`) and to every moment on the way (`CourseRelation.reaches`),
  whatever the transforms do.
* `KnownInvariant`: a property of a state and of the programs that are *known* in it. At
  first this is the program that the transforms are applied to, and every derivation adds
  one. Transforms that stay on the line return none but known programs, so that what
  derivations and returns keep for known programs holds of all programs that the run
  works on (`KnownInvariant.finishes`, `KnownInvariant.reaches`).
-/

namespace TransformerEngine

variable {W : Type} {transforms : List (ResolvedTransform W)}

/-! ### Moments -/

/-- A moment of a run: what is to be done, and the state. -/
abbrev Moment (W : Type) := Task W × RunState W

/-- What is to be done at the first moment leads to what is to be done at the second. -/
inductive Moment.Leads (transforms : List (ResolvedTransform W)) :
    Moment W → Moment W → Prop where
  /-- The next transform is passed over. -/
  | passes {t rest program state}
    (h : t.identity ∈ state.lineage.applied program.id ∨
      ∀ transform, t.value ≠ .program transform) :
    Leads transforms (.apply (t :: rest) program, state) (.apply rest program, state)
  /-- The next transform is invoked. -/
  | invokes {t rest program state transform}
    (hnew : t.identity ∉ state.lineage.applied program.id) (hv : t.value = .program transform) :
    Leads transforms (.apply (t :: rest) program, state)
      (.follow (t.invocationOn program) (transform (t.invocationOn program)) [],
        state.note (.began (t.invocationOn program)))
  /-- The next transform has been invoked, and what it returned is handed on. -/
  | handsOn {t rest program state transform output middle}
    (hnew : t.identity ∉ state.lineage.applied program.id) (hv : t.value = .program transform)
    (inner : Finishes transforms
      (.follow (t.invocationOn program) (transform (t.invocationOn program)) [])
      (state.note (.began (t.invocationOn program))) (.ok output, middle)) :
    Leads transforms (.apply (t :: rest) program, state) (.apply rest output, middle)
  | addsFile {invocation name text next reports state} :
    Leads transforms (.follow invocation (.addFile name text next) reports, state)
      (.follow invocation next reports,
        { state with overlay := state.overlay.write name text }.note
          (.addedFile invocation name text))
  | reports {invocation d next reports state} :
    Leads transforms (.follow invocation (.report d next) reports, state)
      (.follow invocation next (reports ++ [d]), state.note (.reported invocation d))
  | asksOrigin {invocation next reports state} :
    Leads transforms (.follow invocation (.originRoots next) reports, state)
      (.follow invocation (next (state.lineage.originRoots invocation.input)) reports,
        state.note (.askedOrigin invocation (state.lineage.originRoots invocation.input)))
  /-- The script derives a program, which goes through all transforms. -/
  | derives {invocation roots next reports state} :
    Leads transforms (.follow invocation (.derive roots next) reports, state)
      (.apply transforms (state.derive invocation roots).1, (state.derive invocation roots).2)
  /-- The derived program has gone through all transforms, and the script goes on. -/
  | resumes {invocation roots next reports state result middle}
    (inner : Finishes transforms (.apply transforms (state.derive invocation roots).1)
      (state.derive invocation roots).2 (result, middle)) :
    Leads transforms (.follow invocation (.derive roots next) reports, state)
      (.follow invocation (next result) reports, middle)
  | builds {invocation roots options next reports state} :
    Leads transforms (.follow invocation (.build roots options next) reports, state)
      (.follow invocation (next (state.newProgram roots options).1) reports,
        (state.newProgram roots options).2)
  | looksAtFiles {invocation next reports state} :
    Leads transforms (.follow invocation (.files next) reports, state)
      (.follow invocation (next state.overlay) reports, state)
  | readsWorld {invocation next reports state} :
    Leads transforms (.follow invocation (.readWorld next) reports, state)
      (.follow invocation (next state.world) reports, state)
  | writesWorld {invocation world next reports state} :
    Leads transforms (.follow invocation (.writeWorld world next) reports, state)
      (.follow invocation next reports, { state with world })

/-- The second moment comes up in the course of what is to be done at the first. -/
abbrev Moment.Reaches (transforms : List (ResolvedTransform W)) : Moment W → Moment W → Prop :=
  Relation.ReflTransGen (Moment.Leads transforms)

/-! ### What happens has its moment -/

/-- At this moment this happens. -/
inductive Moment.Brings : Moment W → RunEvent → Prop where
  | begins {t rest program state transform}
    (hnew : t.identity ∉ state.lineage.applied program.id) (hv : t.value = .program transform) :
    Brings (.apply (t :: rest) program, state) (.began (t.invocationOn program))
  | addsFile {invocation name text next reports state} :
    Brings (.follow invocation (.addFile name text next) reports, state)
      (.addedFile invocation name text)
  | reports {invocation d next reports state} :
    Brings (.follow invocation (.report d next) reports, state) (.reported invocation d)
  | asksOrigin {invocation next reports state} :
    Brings (.follow invocation (.originRoots next) reports, state)
      (.askedOrigin invocation (state.lineage.originRoots invocation.input))
  | derives {invocation roots next reports state} :
    Brings (.follow invocation (.derive roots next) reports, state)
      (.derived invocation (state.derive invocation roots).1)
  | returns {invocation output reports state} :
    Brings (.follow invocation (.done output) reports, state) (.returned invocation output)
  | fails {invocation failure reports state} :
    Brings (.follow invocation (.fail failure) reports, state) (.failed invocation failure)

/-- All that happened between `start` and `now` happened at a moment that comes up in the
course of what is to be done at `start`, and what happened before it came before it. -/
def Moment.Tells (transforms : List (ResolvedTransform W)) (start : Moment W)
    (now : RunState W) : Prop :=
  ∃ events, now.journal = start.2.journal ++ events ∧
    ∀ before event after, events = before ++ event :: after →
      ∃ moment, Moment.Reaches transforms start moment ∧ moment.Brings event ∧
        moment.2.journal = start.2.journal ++ before

namespace Moment.Tells

variable {start middle : Moment W} {now : RunState W}

theorem quiet (h : now.journal = start.2.journal) : Moment.Tells transforms start now := by
  refine ⟨[], h.trans (List.append_nil _).symm, fun before event after heq => ?_⟩
  exact absurd heq.symm (List.append_ne_nil_of_right_ne_nil _ (List.cons_ne_nil _ _))

theorem brings {event : RunEvent} (h : start.Brings event)
    (hnow : now.journal = start.2.journal ++ [event]) : Moment.Tells transforms start now := by
  refine ⟨[event], hnow, fun before event' after heq => ?_⟩
  rcases List.append_eq_singleton_iff.mp heq.symm with ⟨rfl, hevent⟩ | ⟨-, hnil⟩
  · obtain ⟨rfl, -⟩ := List.cons.inj hevent
    exact ⟨start, .refl, h, (List.append_nil _).symm⟩
  · exact absurd hnil (List.cons_ne_nil _ _)

/-- What happens later in the course of a moment happens in that of the earlier one. -/
theorem trans (hreaches : Moment.Reaches transforms start middle)
    (h : Moment.Tells transforms start middle.2) (hlater : Moment.Tells transforms middle now) :
    Moment.Tells transforms start now := by
  obtain ⟨events, hmiddle, hevents⟩ := h
  obtain ⟨more, hnow, hmore⟩ := hlater
  refine ⟨events ++ more, by rw [hnow, hmiddle, List.append_assoc], ?_⟩
  intro before event after heq
  rcases List.append_eq_append_iff.mp heq with ⟨gap, rfl, hrest⟩ | ⟨gap, rfl, hrest⟩
  · obtain ⟨moment, hmoment, hbrings, hjournal⟩ := hmore gap event after hrest
    exact ⟨moment, hreaches.trans hmoment, hbrings,
      by rw [hjournal, hmiddle, List.append_assoc]⟩
  · cases gap with
    | nil =>
      -- it is the first thing that happened later
      obtain ⟨moment, hmoment, hbrings, hjournal⟩ := hmore [] event after hrest.symm
      exact ⟨moment, hreaches.trans hmoment, hbrings,
        by rw [hjournal, hmiddle, List.append_nil, List.append_nil]⟩
    | cons e gap =>
      obtain ⟨rfl, -⟩ := List.cons.inj hrest
      exact hevents before event gap rfl

end Moment.Tells

/-- **What happens has its moment.** -/
theorem Finishes.tells {task : Task W} {state : RunState W}
    {answer : Except PluginError Program × RunState W}
    (h : Finishes transforms task state answer) :
    Moment.Tells transforms (task, state) answer.2 := by
  induction h with
  | applied program state => exact .quiet rfl
  | passes h later ih => exact .trans (.single (.passes h)) (.quiet rfl) ih
  | invokes hnew hv inner later ihInner ihLater =>
    refine .trans (.single (.handsOn hnew hv inner)) ?_ ihLater
    exact .trans (.single (.invokes hnew hv)) (.brings (.begins hnew hv) rfl) ihInner
  | stops hnew hv inner ih =>
    exact .trans (.single (.invokes hnew hv)) (.brings (.begins hnew hv) rfl) ih
  | returns invocation output reports state => exact .brings .returns rfl
  | fails invocation failure reports state => exact .brings .fails rfl
  | addsFile later ih => exact .trans (.single .addsFile) (.brings .addsFile rfl) ih
  | reports later ih => exact .trans (.single .reports) (.brings .reports rfl) ih
  | asksOrigin later ih => exact .trans (.single .asksOrigin) (.brings .asksOrigin rfl) ih
  | derives inner later ihInner ihLater =>
    refine .trans (.single (.resumes inner)) ?_ ihLater
    exact .trans (.single .derives) (.brings .derives rfl) ihInner
  | builds later ih => exact .trans (.single .builds) (.quiet rfl) ih
  | looksAtFiles later ih => exact .trans (.single .looksAtFiles) (.quiet rfl) ih
  | readsWorld later ih => exact .trans (.single .readsWorld) (.quiet rfl) ih
  | writesWorld later ih => exact .trans (.single .writesWorld) (.quiet rfl) ih

/-- What has happened stays in the journal. -/
theorem Finishes.journal_prefix {task : Task W} {state : RunState W}
    {answer : Except PluginError Program × RunState W}
    (h : Finishes transforms task state answer) : state.journal <+: answer.2.journal := by
  obtain ⟨events, hjournal, -⟩ := h.tells
  exact ⟨events, hjournal.symm⟩

/-! ### Relations along a course -/

/-- A relation that every step of a run stands in, and any two in a row. -/
structure CourseRelation (R : RunState W → RunState W → Prop) : Prop where
  refl : ∀ state, R state state
  trans : ∀ {a b c}, R a b → R b c → R a c
  begin : ∀ state invocation, R state (state.note (.began invocation))
  addFile : ∀ (state : RunState W) invocation name text,
    R state ({ state with overlay := state.overlay.write name text }.note
      (.addedFile invocation name text))
  report : ∀ state invocation d, R state (state.note (.reported invocation d))
  askOrigin : ∀ state invocation roots, R state (state.note (.askedOrigin invocation roots))
  derive : ∀ state invocation roots, R state (state.derive invocation roots).2
  build : ∀ state roots options, R state (state.newProgram roots options).2
  world : ∀ (state : RunState W) world, R state { state with world }
  settle : ∀ state invocation output reports, R state (state.settle invocation output reports)
  fail : ∀ state invocation failure, R state (state.note (.failed invocation failure))

namespace CourseRelation

variable {R : RunState W → RunState W → Prop}

/-- **From steps to whole tasks.** -/
theorem finishes (hR : CourseRelation R) {task : Task W} {state : RunState W}
    {answer : Except PluginError Program × RunState W}
    (h : Finishes transforms task state answer) : R state answer.2 := by
  induction h with
  | applied program state => exact hR.refl state
  | passes h later ih => exact ih
  | invokes hnew hv inner later ihInner ihLater =>
    exact hR.trans (hR.trans (hR.begin _ _) ihInner) ihLater
  | stops hnew hv inner ih => exact hR.trans (hR.begin _ _) ih
  | returns invocation output reports state => exact hR.settle state invocation output reports
  | fails invocation failure reports state => exact hR.fail state invocation failure
  | addsFile later ih => exact hR.trans (hR.addFile _ _ _ _) ih
  | reports later ih => exact hR.trans (hR.report _ _ _) ih
  | asksOrigin later ih => exact hR.trans (hR.askOrigin _ _ _) ih
  | derives inner later ihInner ihLater =>
    exact hR.trans (hR.trans (hR.derive _ _ _) ihInner) ihLater
  | builds later ih => exact hR.trans (hR.build _ _ _) ih
  | looksAtFiles later ih => exact ih
  | readsWorld later ih => exact ih
  | writesWorld later ih => exact hR.trans (hR.world _ _) ih

theorem leads (hR : CourseRelation R) {a b : Moment W} (h : Moment.Leads transforms a b) :
    R a.2 b.2 := by
  cases h with
  | passes h => exact hR.refl _
  | invokes hnew hv => exact hR.begin _ _
  | handsOn hnew hv inner => exact hR.trans (hR.begin _ _) (hR.finishes inner)
  | addsFile => exact hR.addFile _ _ _ _
  | reports => exact hR.report _ _ _
  | asksOrigin => exact hR.askOrigin _ _ _
  | derives => exact hR.derive _ _ _
  | resumes inner => exact hR.trans (hR.derive _ _ _) (hR.finishes inner)
  | @builds _ roots options _ _ state => exact hR.build state roots options
  | looksAtFiles => exact hR.refl _
  | readsWorld => exact hR.refl _
  | writesWorld => exact hR.world _ _

/-- **From steps to every moment.** -/
theorem reaches (hR : CourseRelation R) {a b : Moment W} (h : Moment.Reaches transforms a b) :
    R a.2 b.2 := by
  induction h with
  | refl => exact hR.refl _
  | tail _ hstep ih => exact hR.trans ih (hR.leads hstep)

end CourseRelation

/-! ### Known programs along a course -/

/-- Knowing more leaves a script more to choose from. -/
theorem Script.YieldsFrom.mono {script : Script W Program} {known more : List Program}
    (h : script.YieldsFrom known) (hmore : known ⊆ more) : script.YieldsFrom more := by
  induction script generalizing known more with
  | done program => exact hmore h
  | fail failure => trivial
  | addFile name text next ih => exact ih h hmore
  | report d next ih => exact ih h hmore
  | originRoots next ih => exact fun roots => ih roots (h roots) hmore
  | derive roots next ih =>
    intro result
    refine ih result (h result) ?_
    cases result with
    | ok program => exact List.cons_subset_cons _ hmore
    | error error => exact hmore
  | build roots options next ih => exact fun program => ih program (h program) hmore
  | files next ih => exact fun host => ih host (h host) hmore
  | readWorld next ih => exact fun world => ih world (h world) hmore
  | writeWorld world next ih => exact ih h hmore

theorem learn_subset {known more : List Program} {result : Except PluginError Program}
    (hsub : known ⊆ more) (hout : ∀ output, result = .ok output → output ∈ more) :
    learn known result ⊆ more := by
  cases result with
  | ok output => exact List.cons_subset.mpr ⟨hout output rfl, hsub⟩
  | error error => exact hsub

/-- All programs that the task works on are known, and so is what it returns. -/
def Task.Knows (known : List Program) : Task W → Prop
  | .apply remaining program => program ∈ known ∧ ∀ t ∈ remaining, t.StaysOnLine
  | .follow invocation script _ => invocation.input ∈ known ∧ script.YieldsFrom known

/-- At first only the program is known that the transforms are applied to. -/
theorem Task.knows_apply (stays : ∀ t ∈ transforms, t.StaysOnLine) (program : Program) :
    (Task.apply transforms program).Knows [program] :=
  ⟨List.mem_singleton_self _, stays⟩

/-- A property of states and the programs known in them. As long as the lineages are left
alone it stays, whatever else happens; a derived program joins those that are known; and
of those that are known any may be returned. -/
structure KnownInvariant (I : List Program → RunState W → Prop) : Prop where
  quiet : ∀ {known state now}, I known state → now.lineage = state.lineage →
    state.nextId.number ≤ now.nextId.number → I known now
  derive : ∀ {known state invocation} roots, I known state → invocation.input ∈ known →
    I ((state.derive invocation roots).1 :: known) (state.derive invocation roots).2
  settle : ∀ {known state invocation output} reports, I known state →
    invocation.input ∈ known → output ∈ known → I known (state.settle invocation output reports)

/-- What an invocation may return, it knows. -/
theorem ResolvedTransform.StaysOnLine.knows {t : ResolvedTransform W} (h : t.StaysOnLine)
    {transform : ProgramTransform W} (hv : t.value = .program transform) {program : Program}
    {known : List Program} (hp : program ∈ known) :
    (Task.follow (t.invocationOn program) (transform (t.invocationOn program)) []).Knows known := by
  obtain ⟨transform', hv', hyields⟩ := h
  obtain rfl : transform' = transform := by
    rw [hv] at hv'
    exact (TransformExport.program.inj hv').symm
  exact ⟨hp, (hyields (t.invocationOn program)).mono fun q hq => List.mem_singleton.mp hq ▸ hp⟩

namespace KnownInvariant

variable {I : List Program → RunState W → Prop} {known : List Program}

/-- **From steps to whole tasks.** What a task comes to is known at its end. -/
theorem finishes (hI : KnownInvariant I) (stays : ∀ t ∈ transforms, t.StaysOnLine)
    {task : Task W} {state : RunState W} {answer : Except PluginError Program × RunState W}
    (h : Finishes transforms task state answer) (hknows : task.Knows known)
    (hstate : I known state) :
    ∃ more, known ⊆ more ∧ I more answer.2 ∧ ∀ output, answer.1 = .ok output → output ∈ more := by
  induction h generalizing known with
  | applied program state =>
    exact ⟨known, List.Subset.refl _, hstate, fun output heq => Except.ok.inj heq ▸ hknows.1⟩
  | passes h later ih => exact ih ⟨hknows.1, fun t ht => hknows.2 t (List.mem_cons_of_mem _ ht)⟩ hstate
  | @invokes t rest program state transform output middle answer hnew hv inner later ihInner
      ihLater =>
    have hinvoked := (hknows.2 t (List.mem_cons_self ..)).knows hv hknows.1
    obtain ⟨more, hsub, hmiddle, hout⟩ := ihInner hinvoked (hI.quiet hstate rfl (Nat.le_refl _))
    -- what came back is known, and the rest of the list goes on with it
    obtain ⟨most, hsub', hfinal, hout'⟩ := ihLater
      ⟨hout output rfl, fun t ht => hknows.2 t (List.mem_cons_of_mem _ ht)⟩ hmiddle
    exact ⟨most, List.Subset.trans hsub hsub', hfinal, hout'⟩
  | @stops t rest program state transform error final hnew hv inner ih =>
    have hinvoked := (hknows.2 t (List.mem_cons_self ..)).knows hv hknows.1
    obtain ⟨more, hsub, hfinal, -⟩ := ih hinvoked (hI.quiet hstate rfl (Nat.le_refl _))
    exact ⟨more, hsub, hfinal, fun _ heq => nomatch heq⟩
  | returns invocation output reports state =>
    refine ⟨known, List.Subset.refl _, hI.settle reports hstate hknows.1 hknows.2, ?_⟩
    exact fun output' heq => Except.ok.inj heq ▸ hknows.2
  | fails invocation failure reports state =>
    exact ⟨known, List.Subset.refl _, hI.quiet hstate rfl (Nat.le_refl _), fun _ heq => nomatch heq⟩
  | addsFile later ih => exact ih hknows (hI.quiet hstate rfl (Nat.le_refl _))
  | reports later ih => exact ih hknows (hI.quiet hstate rfl (Nat.le_refl _))
  | asksOrigin later ih =>
    exact ih ⟨hknows.1, hknows.2 _⟩ (hI.quiet hstate rfl (Nat.le_refl _))
  | @derives invocation roots next reports state result middle answer inner later ihInner
      ihLater =>
    obtain ⟨more, hsub, hmiddle, hout⟩ :=
      ihInner ⟨List.mem_cons_self .., stays⟩ (hI.derive roots hstate hknows.1)
    have hsub' : known ⊆ more := fun q hq => hsub (List.mem_cons_of_mem _ hq)
    -- the script may also return what came back, if anything did
    obtain ⟨most, hsub'', hfinal, hout'⟩ :=
      ihLater ⟨hsub' hknows.1, (hknows.2 result).mono (learn_subset hsub' hout)⟩ hmiddle
    exact ⟨most, List.Subset.trans hsub' hsub'', hfinal, hout'⟩
  | builds later ih => exact ih ⟨hknows.1, hknows.2 _⟩ (hI.quiet hstate rfl (Nat.le_succ _))
  | looksAtFiles later ih => exact ih ⟨hknows.1, hknows.2 _⟩ hstate
  | readsWorld later ih => exact ih ⟨hknows.1, hknows.2 _⟩ hstate
  | writesWorld later ih => exact ih hknows (hI.quiet hstate rfl (Nat.le_refl _))

theorem leads (hI : KnownInvariant I) (stays : ∀ t ∈ transforms, t.StaysOnLine) {a b : Moment W}
    (h : Moment.Leads transforms a b) (hknows : a.1.Knows known) (hstate : I known a.2) :
    ∃ more, known ⊆ more ∧ b.1.Knows more ∧ I more b.2 := by
  cases h with
  | passes h =>
    exact ⟨known, List.Subset.refl _,
      ⟨hknows.1, fun t ht => hknows.2 t (List.mem_cons_of_mem _ ht)⟩, hstate⟩
  | @invokes t rest program state transform hnew hv =>
    exact ⟨known, List.Subset.refl _, (hknows.2 t (List.mem_cons_self ..)).knows hv hknows.1,
      hI.quiet hstate rfl (Nat.le_refl _)⟩
  | @handsOn t rest program state transform output middle hnew hv inner =>
    have hinvoked := (hknows.2 t (List.mem_cons_self ..)).knows hv hknows.1
    obtain ⟨more, hsub, hmiddle, hout⟩ :=
      hI.finishes stays inner hinvoked (hI.quiet hstate rfl (Nat.le_refl _))
    exact ⟨more, hsub, ⟨hout output rfl, fun t ht => hknows.2 t (List.mem_cons_of_mem _ ht)⟩,
      hmiddle⟩
  | addsFile =>
    exact ⟨known, List.Subset.refl _, hknows, hI.quiet hstate rfl (Nat.le_refl _)⟩
  | reports =>
    exact ⟨known, List.Subset.refl _, hknows, hI.quiet hstate rfl (Nat.le_refl _)⟩
  | asksOrigin =>
    exact ⟨known, List.Subset.refl _, ⟨hknows.1, hknows.2 _⟩,
      hI.quiet hstate rfl (Nat.le_refl _)⟩
  | @derives invocation roots next reports state =>
    exact ⟨_, List.subset_cons_self _ _, ⟨List.mem_cons_self .., stays⟩,
      hI.derive roots hstate hknows.1⟩
  | @resumes invocation roots next reports state result middle inner =>
    obtain ⟨more, hsub, hmiddle, hout⟩ := hI.finishes stays inner ⟨List.mem_cons_self .., stays⟩
      (hI.derive roots hstate hknows.1)
    have hsub' : known ⊆ more := fun q hq => hsub (List.mem_cons_of_mem _ hq)
    exact ⟨more, hsub', ⟨hsub' hknows.1, (hknows.2 result).mono (learn_subset hsub' hout)⟩, hmiddle⟩
  | builds =>
    exact ⟨known, List.Subset.refl _, ⟨hknows.1, hknows.2 _⟩,
      hI.quiet hstate rfl (Nat.le_succ _)⟩
  | looksAtFiles => exact ⟨known, List.Subset.refl _, ⟨hknows.1, hknows.2 _⟩, hstate⟩
  | readsWorld => exact ⟨known, List.Subset.refl _, ⟨hknows.1, hknows.2 _⟩, hstate⟩
  | writesWorld =>
    exact ⟨known, List.Subset.refl _, hknows, hI.quiet hstate rfl (Nat.le_refl _)⟩

/-- **From steps to every moment.** What is worked on at a moment is known at it. -/
theorem reaches (hI : KnownInvariant I) (stays : ∀ t ∈ transforms, t.StaysOnLine)
    {a b : Moment W} (h : Moment.Reaches transforms a b) (hknows : a.1.Knows known)
    (hstate : I known a.2) : ∃ more, b.1.Knows more ∧ I more b.2 := by
  induction h with
  | refl => exact ⟨known, hknows, hstate⟩
  | tail _ hstep ih =>
    obtain ⟨more, hknows', hstate'⟩ := ih
    obtain ⟨most, -, h⟩ := hI.leads stays hstep hknows' hstate'
    exact ⟨most, h⟩

end KnownInvariant

/-- **Programs are numbered as they are made.** All known programs are made, and none that is
yet to be made has an entry. -/
theorem numbered_knownInvariant : KnownInvariant fun known (state : RunState W) =>
    state.Numbered ∧ ∀ q ∈ known, state.Made q.id where
  quiet {known state now} h hlineage hnext := by
    have hmade : ∀ id, state.Made id → now.Made id := fun id hid => Nat.lt_of_lt_of_le hid hnext
    refine ⟨fun id hid => ?_, fun q hq => hmade _ (h.2 q hq)⟩
    rw [hlineage]
    exact h.1 id fun hold => hid (hmade id hold)
  derive {known state invocation} roots h _ := by
    refine ⟨h.1.derive invocation roots, List.forall_mem_cons.mpr ⟨?_, fun q hq => ?_⟩⟩
    · exact RunState.made_derive.mpr (.inr rfl)
    · exact RunState.made_derive.mpr (.inl (h.2 q hq))
  settle {known state invocation output} reports h _ hout :=
    ⟨h.1.settle invocation (h.2 output hout) reports, h.2⟩

end TransformerEngine
