import TransformerEngine.Proofs.Lineage.Course
import TransformerEngine.Proofs.Lineage.Once

/-!
# Reports handed on

A program that comes of another one should have the other's reports among its own. `inherit`
copies them to a child that gets its first entry, and takes it that a child with an entry
has them already. `reports_handed_on_iff` says what this comes to:

* whatever the lineages are, the reports of the parent are among those of the child
  afterwards if and only if the child had no entry, or had them;
* in a run of transforms that stay on the line, however deep an invocation is nested, what it
  returns has the reports of its input at the head of its own even before it inherits.

The second is kept by every step of a run (`Moment.Leads.carries`). While an invocation runs,
all that it may return starts with the reports of its input (`Carriers`): a derived program
is given them, those that its own line adds come behind, and meanwhile nobody adds to the
input. A program from elsewhere has none of this, and if it has an entry then it never gets
the reports.
-/

namespace TransformerEngine

variable {W : Type} {transforms : List (ResolvedTransform W)}

namespace Lineage

variable {lineage : Lineage} {parent child : Program} {extra : List TransformIdentity}

/-- All that was reported along the line of `parent` is among what was reported along that
of `child`. -/
def HasReportsOf (lineage : Lineage) (child parent : Program) : Prop :=
  ∀ d ∈ lineage.diagnostics parent.id, d ∈ lineage.diagnostics child.id

instance : Decidable (lineage.HasReportsOf child parent) :=
  inferInstanceAs
    (Decidable (∀ d ∈ lineage.diagnostics parent.id, d ∈ lineage.diagnostics child.id))

/-- **When inheriting hands reports on.** -/
theorem hasReportsOf_inherit_iff (hne : child.id ≠ parent.id) :
    (lineage.inherit parent child extra).HasReportsOf child parent ↔
      lineage.find? child.id = none ∨ lineage.HasReportsOf child parent := by
  unfold HasReportsOf
  rw [diagnostics_congr (find?_inherit_of_ne hne.symm)]
  cases hentry : lineage.find? child.id with
  | none =>
    rw [diagnostics_inherit_of_new hentry hne]
    exact iff_of_true (fun _ hd => hd) (.inl rfl)
  | some entry =>
    rw [diagnostics_inherit_of_entry hentry, or_iff_right (Option.some_ne_none entry)]

/-- A child that has the reports of its parent in front is given none. -/
theorem diagnostics_inherit_of_prefix
    (h : lineage.diagnostics parent.id <+: lineage.diagnostics child.id) :
    (lineage.inherit parent child extra).diagnostics child.id = lineage.diagnostics child.id := by
  cases hentry : lineage.find? child.id with
  | some entry => exact diagnostics_inherit_of_entry hentry
  | none =>
    by_cases hsame : child.id = parent.id
    · rw [diagnostics_of_find? find?_inherit_self, inheritedEntry, if_pos (.inr hsame)]
      exact diagnostics_entryOf
    · -- without an entry the child has no reports, so the parent has none to give
      rw [diagnostics_of_find?_none hentry] at h ⊢
      rw [diagnostics_inherit_of_new hentry hsame]
      exact List.prefix_nil.mp h

end Lineage

/-! ### While an invocation runs -/

/-- The `known` programs have the reports of `input` at the head of their own. -/
structure Carriers (input : Program) (known : List Program) (now : RunState W) : Prop where
  numbered : now.Numbered
  input_made : now.Made input.id
  made : ∀ q ∈ known, now.Made q.id
  carry : ∀ q ∈ known, now.lineage.diagnostics input.id <+: now.lineage.diagnostics q.id

namespace Carriers

variable {input : Program} {known : List Program} {state now middle : RunState W}

/-- At first an invocation knows its input. -/
theorem begin (hnum : now.Numbered) (hmade : now.Made input.id) : Carriers input [input] now where
  numbered := hnum
  input_made := hmade
  made := List.forall_mem_singleton.mpr hmade
  carry := List.forall_mem_singleton.mpr (List.prefix_refl _)

theorem quiet (h : Carriers input known state) (hlineage : now.lineage = state.lineage)
    (hnext : state.nextId.number ≤ now.nextId.number) : Carriers input known now := by
  obtain ⟨hnum, hmade⟩ := numbered_knownInvariant.quiet ⟨h.numbered, h.made⟩ hlineage hnext
  exact ⟨hnum, Nat.lt_of_lt_of_le h.input_made hnext, hmade, hlineage ▸ h.carry⟩

theorem diagnostics_derive {invocation : Invocation}
    (h : Carriers invocation.input known state) (roots : List String) :
    (state.derive invocation roots).2.lineage.diagnostics (state.derive invocation roots).1.id =
      state.lineage.diagnostics invocation.input.id := by
  refine Lineage.diagnostics_inherit_of_new (h.numbered _ state.not_made_nextId) ?_
  intro heq
  exact state.not_made_nextId (heq ▸ h.input_made : state.Made (state.derive invocation roots).1.id)

/-- A derivation leaves the known programs alone, and what comes back of it, if anything
does, starts with the reports of the input as well. -/
theorem derive (stays : ∀ t ∈ transforms, t.StaysOnLine) {invocation : Invocation}
    {roots : List String} {result : Except PluginError Program}
    (h : Carriers invocation.input known state)
    (hrun : applyTransforms transforms (state.derive invocation roots).1
      (state.derive invocation roots).2 = (result, middle)) :
    Carriers invocation.input (learn known result) middle := by
  have hnew : (state.derive invocation roots).2.Made (state.derive invocation roots).1.id :=
    RunState.made_derive.mpr (.inr rfl)
  obtain ⟨events, stretch, harrives⟩ :=
    applyTransforms_outcome stays (h.numbered.derive invocation roots) hnew
  rw [hrun] at stretch harrives
  -- whatever became of the derived program, nobody else's entry was touched
  have within : Within invocation state _ middle := .derive stretch
  have hkept : ∀ id, state.Made id →
      middle.lineage.diagnostics id = state.lineage.diagnostics id :=
    fun id hid => Lineage.diagnostics_congr (within.entries id hid)
  have hknown : Carriers invocation.input known middle := by
    refine ⟨within.numbered, within.made _ h.input_made,
      fun q hq => within.made _ (h.made q hq), ?_⟩
    intro q hq
    rw [hkept _ h.input_made, hkept _ (h.made q hq)]
    exact h.carry q hq
  cases result with
  | error error => exact hknown
  | ok output =>
    obtain ⟨line, arrival, -⟩ := harrives output rfl
    refine ⟨hknown.numbered, hknown.input_made,
      List.forall_mem_cons.mpr ⟨arrival.made, hknown.made⟩,
      List.forall_mem_cons.mpr ⟨⟨recorded events line, ?_⟩, hknown.carry⟩⟩
    -- the derived program was given the reports of the input, and its line added its own
    rw [arrival.diagnostics, h.diagnostics_derive roots, hkept _ h.input_made]

end Carriers

/-! ### Along a run -/

/-- At this moment all that the running invocation may return has the reports of its input
at the head of its own. -/
def Moment.Carries : Moment W → Prop
  | (.apply remaining program, now) =>
    now.Numbered ∧ now.Made program.id ∧ ∀ t ∈ remaining, t.StaysOnLine
  | (.follow invocation script _, now) =>
    ∃ known, Carriers invocation.input known now ∧ script.YieldsFrom known

theorem Moment.Leads.carries (stays : ∀ t ∈ transforms, t.StaysOnLine) {a b : Moment W}
    (h : Moment.Leads transforms a b) (hcarries : a.Carries) : b.Carries := by
  cases h with
  | passes h =>
    obtain ⟨hnum, hmade, hremaining⟩ := hcarries
    exact ⟨hnum, hmade, fun t ht => hremaining t (List.mem_cons_of_mem _ ht)⟩
  | @invokes t rest program state transform hnew hv =>
    obtain ⟨hnum, hmade, hremaining⟩ := hcarries
    have hknows := (hremaining t (List.mem_cons_self ..)).knows hv (List.mem_singleton_self program)
    exact ⟨[program], .begin hnum hmade, hknows.2⟩
  | @handsOn t rest program state transform output middle hnew hv inner =>
    obtain ⟨hnum, hmade, hremaining⟩ := hcarries
    have hknows := (hremaining t (List.mem_cons_self ..)).knows hv (List.mem_singleton_self program)
    obtain ⟨more, -, ⟨hnum', hmade'⟩, hout⟩ := numbered_knownInvariant.finishes stays inner hknows
      ⟨hnum, List.forall_mem_singleton.mpr hmade⟩
    exact ⟨hnum', hmade' output (hout output rfl),
      fun t ht => hremaining t (List.mem_cons_of_mem _ ht)⟩
  | @derives invocation roots next reports state =>
    obtain ⟨known, hknown, -⟩ := hcarries
    exact ⟨hknown.numbered.derive invocation roots, RunState.made_derive.mpr (.inr rfl), stays⟩
  | @resumes invocation roots next reports state result middle inner =>
    obtain ⟨known, hknown, hyields⟩ := hcarries
    have hrun := inner.outcome_eq
    rw [Task.outcome, ← applyTransforms_eq] at hrun
    exact ⟨learn known result, hknown.derive stays hrun, hyields result⟩
  | addsFile | reports | writesWorld =>
    obtain ⟨known, hknown, hyields⟩ := hcarries
    exact ⟨known, hknown.quiet rfl (Nat.le_refl _), hyields⟩
  | asksOrigin | looksAtFiles | readsWorld =>
    obtain ⟨known, hknown, hyields⟩ := hcarries
    exact ⟨known, hknown.quiet rfl (Nat.le_refl _), hyields _⟩
  | builds =>
    obtain ⟨known, hknown, hyields⟩ := hcarries
    exact ⟨known, hknown.quiet rfl (Nat.le_succ _), hyields _⟩

theorem Moment.carries_of_reaches (stays : ∀ t ∈ transforms, t.StaysOnLine) {a b : Moment W}
    (h : Moment.Reaches transforms a b) (hcarries : a.Carries) : b.Carries := by
  induction h with
  | refl => exact hcarries
  | tail _ hstep ih => exact hstep.carries stays ih

/-! A program that has been through a transform, and a transform that returns it whatever it
is applied to. -/

namespace Sample

/-- Returns a program from elsewhere. -/
def reuse : ResolvedTransform Unit := .ofScript "reuse" fun _ => .done entry

def reusers : List (ResolvedTransform Unit) := [lint, reuse]

/-- A program that has nothing to do with `entry`. -/
def stranger : Program := ⟨⟨1⟩, [], {}, Table.empty, []⟩

/-- The state in which `entry` and `stranger` are made, and `entry` has its line. -/
def meeting : RunState Unit := { start with nextId := ⟨2⟩ }

/-- The state in which `lint` has been applied to `stranger`. -/
def linted : RunState Unit :=
  let invocation := lint.invocationOn stranger
  let reported := (meeting.note (.began invocation)).note (.reported invocation (.error 2 "linted"))
  reported.settle invocation stranger [.error 2 "linted"]

/-- The state in which `inject` has derived what it returns, and is about to return it. -/
def injected : RunState Unit :=
  let invocation := inject.invocationOn entry
  let reported := (start.note (.began invocation)).note (.reported invocation (.error 1 "injected"))
  let first := reported.derive invocation []
  let between := (applyTransforms Sample.transforms first.1 first.2).2
  let second := (between.note (.askedOrigin invocation [])).derive invocation []
  (applyTransforms Sample.transforms second.1 second.2).2

end Sample

/-- **When reports are handed on.** After `child` inherited from another program, whatever
the lineages are, it has the reports of that program if and only if it had no entry before,
or had them already. In a run of transforms that return their input or what they derived,
they are handed on every time that anything inherits: a derived program starts with the
reports of the input that it is derived from, and what an invocation returns starts with
those of its input, with what its own line added behind, and gets those of the invocation at
the end. -/
theorem reports_handed_on_iff :
    (∀ (lineage : Lineage) (parent child : Program) (extra : List TransformIdentity),
      child.id ≠ parent.id →
      ((lineage.inherit parent child extra).HasReportsOf child parent ↔
        lineage.find? child.id = none ∨ lineage.HasReportsOf child parent)) ∧
    ∀ (transforms : List (ResolvedTransform W)) (program : Program) (state : RunState W),
      (∀ t ∈ transforms, t.StaysOnLine) → state.Numbered → state.Made program.id →
      ∀ invocation script reports now,
        Moment.Reaches transforms (.apply transforms program, state)
          (.follow invocation script reports, now) →
        (∀ roots, (now.derive invocation roots).2.lineage.diagnostics
            (now.derive invocation roots).1.id =
          now.lineage.diagnostics invocation.input.id) ∧
        ∀ output, script = .done output → ∃ more,
          now.lineage.diagnostics output.id =
            now.lineage.diagnostics invocation.input.id ++ more ∧
          (now.settle invocation output reports).lineage.diagnostics output.id =
            now.lineage.diagnostics invocation.input.id ++ more ++ reports := by
  refine ⟨fun _ _ _ _ hne => Lineage.hasReportsOf_inherit_iff hne, ?_⟩
  intro transforms program state stays numbered made invocation script reports now hmoment
  obtain ⟨known, hknown, hyields⟩ :=
    Moment.carries_of_reaches stays hmoment ⟨numbered, made, stays⟩
  refine ⟨fun roots => hknown.diagnostics_derive roots, ?_⟩
  rintro output rfl
  have hprefix : now.lineage.diagnostics invocation.input.id <+:
      now.lineage.diagnostics output.id := hknown.carry output hyields
  obtain ⟨more, hmore⟩ := hprefix
  refine ⟨more, hmore.symm, ?_⟩
  rw [RunState.settle_lineage, Lineage.diagnostics_reportAll,
    Lineage.diagnostics_inherit_of_prefix ⟨more, hmore⟩, hmore]

/-- `reuse` takes what `lint` made of `stranger` and returns `entry`, which has the report of
`check` and never gets that of `lint`. What `inject` derives from `entry` has both the report
of `check` and that of `lint`, and gets that of `inject`. -/
theorem reports_handed_on_iff_sample :
    Moment.Reaches Sample.reusers (.apply Sample.reusers Sample.stranger, Sample.meeting)
      (.follow (Sample.reuse.invocationOn Sample.stranger) (.done Sample.entry) [],
        Sample.linted.note (.began (Sample.reuse.invocationOn Sample.stranger))) ∧
    ¬ (Sample.linted.lineage.inherit Sample.stranger Sample.entry
      [Sample.reuse.identity]).HasReportsOf Sample.entry Sample.stranger ∧
    Sample.injected.lineage.diagnostics Sample.output.id =
      [.error 3 "checked", .error 2 "linted"] ∧
    (Sample.injected.settle (Sample.inject.invocationOn Sample.entry) Sample.output
      [.error 1 "injected"]).lineage.diagnostics Sample.output.id =
        [.error 3 "checked", .error 2 "linted", .error 1 "injected"] := by
  obtain ⟨hinherits, hruns⟩ := reports_handed_on_iff (W := Unit)
  have hlint : Sample.lint.identity ∉ Sample.meeting.lineage.applied Sample.stranger.id := by
    decide
  have hreuse : Sample.reuse.identity ∉ Sample.linted.lineage.applied Sample.stranger.id := by
    decide
  have hchecked : Sample.check.identity ∈ Sample.start.lineage.applied Sample.entry.id := by
    decide
  have hinject : Sample.inject.identity ∉ Sample.start.lineage.applied Sample.entry.id := by
    decide
  have hmoment : Moment.Reaches Sample.transforms
      (.apply Sample.transforms Sample.entry, Sample.start)
      (.follow (Sample.inject.invocationOn Sample.entry) (.done Sample.output)
        [.error 1 "injected"], Sample.injected) := by
    refine .head (.passes (.inl hchecked)) (.head (.invokes hinject rfl) (.head .reports ?_))
    refine .head (.resumes (finishes_applyTransforms ..)) (.head .asksOrigin ?_)
    exact .single (.resumes (finishes_applyTransforms ..))
  obtain ⟨-, hreturns⟩ := hruns _ _ _ Sample.staysOnLine Sample.numbered Sample.made _ _ _ _ hmoment
  obtain ⟨more, houtput, hsettled⟩ := hreturns Sample.output rfl
  refine ⟨?_, ?_, by decide, ?_⟩
  · refine .head (.handsOn hlint rfl (.reports (.returns ..))) ?_
    exact .single (.invokes hreuse rfl)
  · rw [hinherits _ _ _ _ (by decide)]
    decide
  · rw [hsettled, ← houtput]
    decide

end TransformerEngine
