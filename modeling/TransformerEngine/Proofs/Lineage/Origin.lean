import TransformerEngine.Proofs.Lineage.Course

/-!
# Where a line started

Whatever root names the transforms derive programs from, all that comes of a program
remembers where it comes from, and is compiled with the options that it is compiled with
(`line_keeps_origin`).

The origin is kept with the entry of a program and handed down once, when an entry is
made. What is carried along the course of a run is that all known programs have one origin
(`Heirs`). Then it makes no difference whether what an invocation returns has an entry
already: the origin that it has and the one that it would inherit are the same.
-/

namespace TransformerEngine

variable {W : Type} {transforms : List (ResolvedTransform W)}

/-- The known programs all come from a program that had these `roots`, and are compiled
with the same `options`. -/
structure Heirs (roots : List String) (options : CompilerOptions) (known : List Program)
    (now : RunState W) : Prop where
  numbered : now.Numbered
  made : ∀ q ∈ known, now.Made q.id
  origin : ∀ q ∈ known, now.lineage.originRoots q = roots
  options : ∀ q ∈ known, q.options = options

/-- A child that is entered for the first time starts where its parent did. -/
theorem Heirs.originRoots_derive {roots : List String} {options : CompilerOptions}
    {known : List Program} {state : RunState W} (h : Heirs roots options known state)
    {invocation : Invocation} (hinput : invocation.input ∈ known) (names : List String) :
    (state.derive invocation names).2.lineage.originRoots (state.derive invocation names).1 =
      roots := by
  have hentry : state.lineage.find? state.nextId = none := h.numbered _ state.not_made_nextId
  have hne : state.nextId ≠ invocation.input.id := by
    intro heq
    exact state.not_made_nextId (heq ▸ h.made _ hinput)
  rw [RunState.derive_lineage, Lineage.originRoots_of_find? Lineage.find?_inherit_self,
    Lineage.originRoots_inheritedEntry, if_neg]
  · exact h.origin _ hinput
  · rw [RunState.derive_id, hentry]
    simpa using hne

/-- **All known programs keep one origin.** -/
theorem heirs_knownInvariant (roots : List String) (options : CompilerOptions) :
    KnownInvariant (Heirs roots options : List Program → RunState W → Prop) where
  quiet h hlineage hnext := by
    obtain ⟨hnum, hmade⟩ := numbered_knownInvariant.quiet ⟨h.numbered, h.made⟩ hlineage hnext
    exact ⟨hnum, hmade, fun q hq => hlineage ▸ h.origin q hq, h.options⟩
  derive {known state invocation} names h hinput := by
    obtain ⟨hnum, hmade⟩ := numbered_knownInvariant.derive names ⟨h.numbered, h.made⟩ hinput
    refine ⟨hnum, hmade, List.forall_mem_cons.mpr ⟨h.originRoots_derive hinput names, ?_⟩,
      List.forall_mem_cons.mpr ⟨(h.options invocation.input hinput :), h.options⟩⟩
    intro q hq
    -- the program made just now is none of those that were known
    have hne : q.id ≠ (state.derive invocation names).1.id := by
      intro heq
      exact state.not_made_nextId
        (heq ▸ h.made q hq : state.Made (state.derive invocation names).1.id)
    rw [RunState.derive_lineage, Lineage.originRoots_congr (Lineage.find?_inherit_of_ne hne)]
    exact h.origin q hq
  settle {known state invocation output} reports h hinput hout := by
    obtain ⟨hnum, hmade⟩ :=
      numbered_knownInvariant.settle reports ⟨h.numbered, h.made⟩ hinput hout
    refine ⟨hnum, hmade, fun q hq => ?_, h.options⟩
    rw [RunState.settle_lineage]
    by_cases hq' : q.id = output.id
    · -- the entry of the output has its own origin or that of the input, which are the same
      have hentry : ((state.lineage.inherit invocation.input output
          [invocation.identity]).reportAll output reports).find? output.id = some _ :=
        Lineage.find?_reportAll_of_entry Lineage.find?_inherit_self
      rw [← hq'] at hentry
      refine (Lineage.originRoots_of_find? hentry).trans
        (Lineage.originRoots_inheritedEntry.trans ?_)
      split
      · exact h.origin output hout
      · exact h.origin invocation.input hinput
    · rw [Lineage.originRoots_congr]
      · exact h.origin q hq
      · rw [Lineage.find?_reportAll_of_ne hq', Lineage.find?_inherit_of_ne hq']

/-! A line on which every derivation is from other root names. -/

namespace Sample

/-- Derives from a file of its own and the root names that the line started from. -/
def extend : ResolvedTransform Unit :=
  .ofScript "extend" fun _ => .originRoots fun roots => .deriveOrFail ("own.ts" :: roots)

/-- Derives from no file, and then from one of its own. -/
def rebase : ResolvedTransform Unit :=
  .ofScript "rebase" fun _ => .derive [] fun _ => .deriveOrFail ["base.ts"]

def wanderers : List (ResolvedTransform Unit) := [rebase, extend]

/-- A program that was asked for two files. -/
def source : Program := ⟨⟨4⟩, ["main.ts", "util.ts"], {}, Table.empty, []⟩

/-- The state in which `source` stands on a line that started from `main.ts` alone. -/
def departure : RunState Unit where
  lineage := Lineage.empty.set source.id { originRoots := ["main.ts"] }
  overlay := { currentDirectory := "/" }
  nextId := ⟨5⟩
  world := ()

/-- What `rebase` derives at last, which `extend` is applied to. -/
def rebased : Program × RunState Unit :=
  let began := departure.note (.began (rebase.invocationOn source))
  let first := began.derive (rebase.invocationOn source) []
  (applyTransforms wanderers first.1 first.2).2.derive (rebase.invocationOn source) ["base.ts"]

/-- What comes of `source`. -/
def arrival : Program := (Program.create ["own.ts", "main.ts"] {} rebased.2.overlay.toHost ⟨8⟩)

theorem wanderers_stayOnLine : ∀ t ∈ wanderers, t.StaysOnLine := by
  simp only [wanderers, List.forall_mem_cons]
  exact ⟨⟨_, rfl, fun _ _ => Script.yieldsFrom_deriveOrFail _ _⟩,
    ⟨_, rfl, fun _ _ => Script.yieldsFrom_deriveOrFail _ _⟩, fun _ ht => absurd ht List.not_mem_nil⟩

end Sample

/-- **A line keeps its origin and its options.** At every moment of every invocation in a
run of `program`, however deep it is nested, the line of its input started from the root
names that the line of `program` started from when the run began, and the input has the
options of `program`. If the run comes to an output then the same holds of the output, and
its entry says so. -/
theorem line_keeps_origin (stays : ∀ t ∈ transforms, t.StaysOnLine) {program : Program}
    {state : RunState W} (numbered : state.Numbered) (made : state.Made program.id) :
    (∀ invocation script reports now,
      Moment.Reaches transforms (.apply transforms program, state)
        (.follow invocation script reports, now) →
      now.lineage.originRoots invocation.input = state.lineage.originRoots program ∧
      invocation.input.options = program.options) ∧
    ∀ output final, applyTransforms transforms program state = (.ok output, final) →
      final.lineage.originRoots output = state.lineage.originRoots program ∧
      output.options = program.options ∧
      ∀ entry, final.lineage.find? output.id = some entry →
        entry.originRoots = state.lineage.originRoots program := by
  have hI := heirs_knownInvariant (W := W) (state.lineage.originRoots program) program.options
  have hstart : Heirs (state.lineage.originRoots program) program.options [program] state :=
    ⟨numbered, List.forall_mem_singleton.mpr made, List.forall_mem_singleton.mpr rfl,
      List.forall_mem_singleton.mpr rfl⟩
  have hknows := Task.knows_apply stays program
  constructor
  · intro invocation script reports now hmoment
    obtain ⟨known, ⟨hinput, -⟩, hheirs⟩ := hI.reaches stays hmoment hknows hstart
    exact ⟨hheirs.origin _ hinput, hheirs.options _ hinput⟩
  · intro output final hrun
    have hfinishes := finishes_applyTransforms transforms program state
    rw [hrun] at hfinishes
    obtain ⟨known, -, hheirs, hout⟩ := hI.finishes stays hfinishes hknows hstart
    have horigin := hheirs.origin output (hout output rfl)
    refine ⟨horigin, hheirs.options output (hout output rfl), fun entry hentry => ?_⟩
    rw [← horigin, Lineage.originRoots_of_find? hentry]

/-- On its way from `source` the line has been through programs of no file, of `base.ts` and
of `own.ts`. -/
theorem line_keeps_origin_sample :
    Sample.rebased.2.lineage.originRoots Sample.rebased.1 = ["main.ts"] ∧
    (applyTransforms Sample.wanderers Sample.source Sample.departure).1 = .ok Sample.arrival ∧
    (applyTransforms Sample.wanderers Sample.source Sample.departure).2.lineage.originRoots
      Sample.arrival = ["main.ts"] ∧
    Sample.arrival.options = {} := by
  have hmade : Sample.departure.Made Sample.source.id := (by decide : (4 : Nat) < 5)
  have hnumbered : Sample.departure.Numbered := by
    intro id hid
    have hne : Sample.source.id ≠ id := by
      rintro rfl
      exact hid hmade
    exact (Lineage.find?_set ..).trans (if_neg hne)
  have hrebase : Sample.rebase.identity ∉ Sample.departure.lineage.applied Sample.source.id := by
    decide
  have hrebased : Sample.rebase.identity ∈
      Sample.rebased.2.lineage.applied Sample.rebased.1.id := by
    decide
  have hextend : Sample.extend.identity ∉
      Sample.rebased.2.lineage.applied Sample.rebased.1.id := by
    decide
  have hmoment : Moment.Reaches Sample.wanderers
      (.apply Sample.wanderers Sample.source, Sample.departure)
      (.follow (Sample.extend.invocationOn Sample.rebased.1)
        (.originRoots fun roots => .deriveOrFail ("own.ts" :: roots)) [],
        Sample.rebased.2.note (.began (Sample.extend.invocationOn Sample.rebased.1))) := by
    refine .head (.invokes hrebase rfl) ?_
    refine .head (.resumes (finishes_applyTransforms ..)) (.head .derives ?_)
    exact .head (.passes (.inl hrebased)) (.single (.invokes hextend rfl))
  have hrun : applyTransforms Sample.wanderers Sample.source Sample.departure =
      (.ok Sample.arrival,
        (applyTransforms Sample.wanderers Sample.source Sample.departure).2) := rfl
  obtain ⟨hinvocations, houtput⟩ :=
    line_keeps_origin Sample.wanderers_stayOnLine hnumbered hmade
  obtain ⟨horigin, hoptions, -⟩ := houtput _ _ hrun
  exact ⟨(hinvocations _ _ _ _ hmoment).1, congrArg Prod.fst hrun, horigin, hoptions⟩

end TransformerEngine
