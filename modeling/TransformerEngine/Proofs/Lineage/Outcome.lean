import TransformerEngine.Proofs.Lineage.Stretch

/-!
# What a run comes to

For transforms that return their input or what they derived
(`ResolvedTransform.StaysOnLine`) the lineage agrees with the lines of the journal: a run
is a `Stretch`, and if it succeeds then it arrives with a line of exactly those transforms
that were left to apply (`applyWithin_outcome`).

The induction is on the depth of the derivations. While an invocation runs, `Knowledge`
says of the programs it can return that they are its input or came back from a derivation,
after which nothing was left to apply. So an invocation applies itself alone or itself
and all that was left (`Knowledge.outcome`), and the loop over the list goes on with the rest
or finds nothing more to do (`applyAll_outcome`).
-/

namespace TransformerEngine

variable {W : Type}

/-! ### Outcomes -/

/-- What a run of `program` comes to: it is a stretch, and if it succeeds then it arrives
somewhere, with a line of invocations that all returned and that are of the `expected`
transforms. -/
def Outcome {ε : Type} (expected : List TransformIdentity → Prop) (program : Program)
    (start : RunState W) (answer : Except ε Program × RunState W) : Prop :=
  ∃ events, Stretch program start events answer.2 ∧
    ∀ output, answer.1 = .ok output → ∃ line,
      Arrival program start events answer.2 output line ∧
      (∀ i ∈ line, ∃ result, .returned i result ∈ events) ∧
      expected (line.map Invocation.identity)

/-- Since `start` the running `invocation` derived a program from its input, and `program`
came back, with all of `ids` applied that were left after the invocation's own. -/
structure CameBack (ids : List TransformIdentity) (invocation : Invocation)
    (start : RunState W) (events : List RunEvent) (now : RunState W) (program : Program)
    (line : List Invocation) : Prop
    extends Arrival invocation.input start events now program (invocation :: line) where
  new : ¬ start.Made program.id
  returned : ∀ i ∈ line, ∃ result, .returned i result ∈ events
  identities : line.map Invocation.identity =
    unapplied ids (invocation.identity :: start.lineage.applied invocation.input.id)

/-- What holds while an invocation runs: all that happened is inside it, its reports are
those of the journal, and the programs that it knows are its input and what came back. -/
structure Knowledge (ids : List TransformIdentity) (invocation : Invocation)
    (start : RunState W) (events : List RunEvent) (known : List Program)
    (reports : List Diagnostic) (now : RunState W) : Prop where
  within : Within invocation start events now
  reported : reports = reportsOf events invocation
  known : ∀ program ∈ known, program = invocation.input ∨
    ∃ line, CameBack ids invocation start events now program line

section Invoking

variable {ids : List TransformIdentity} {invocation : Invocation} {start mid now : RunState W}
variable {events later : List RunEvent} {known : List Program} {reports : List Diagnostic}

theorem CameBack.within {program : Program} {line : List Invocation}
    (h : CameBack ids invocation start events mid program line)
    (hinput : start.Made invocation.input.id) (before : Within invocation start events mid)
    (after : Within invocation mid later now) :
    CameBack ids invocation start (events ++ later) now program line where
  toArrival := h.toArrival.within hinput h.new before after
  new := h.new
  returned i hi := (h.returned i hi).imp fun _ => List.mem_append_left _
  identities := h.identities

theorem Knowledge.step (h : Knowledge ids invocation start events known reports mid)
    (hinput : start.Made invocation.input.id) (after : Within invocation mid later now) :
    Knowledge ids invocation start (events ++ later) known
      (reports ++ reportsOf later invocation) now where
  within := h.within.trans after
  reported := by rw [reportsOf_append, h.reported]
  known program hp := (h.known program hp).imp_right fun ⟨line, back⟩ =>
    ⟨line, back.within hinput h.within after⟩

/-- Acts of the invocation's own that change no lineage. -/
theorem Knowledge.own {reports' : List Diagnostic}
    (h : Knowledge ids invocation start events known reports mid)
    (hinput : start.Made invocation.input.id) (later : List RunEvent)
    (hown : ∀ e ∈ later, e.invocation = invocation ∧ e.beginning? = none ∧ e.ending? = none)
    (htrail : ∀ trail, later.foldl RunEvent.extend trail = trail)
    (hjournal : now.journal = mid.journal ++ later) (hlineage : now.lineage = mid.lineage)
    (hnext : mid.nextId.number ≤ now.nextId.number)
    (hreports : reports' = reports ++ reportsOf later invocation) :
    Knowledge ids invocation start (events ++ later) known reports' now := by
  rw [hreports]
  exact h.step hinput (.own hown htrail h.within.numbered hjournal hlineage hnext)

/-- What a derived program is handed on with: the transforms of its parent and that of the
running invocation. -/
theorem Within.mem_applied_derive {roots : List String} {i : TransformIdentity}
    (h : Within invocation start events mid) (hinput : start.Made invocation.input.id) :
    i ∈ (mid.derive invocation roots).2.lineage.applied (mid.derive invocation roots).1.id ↔
      i ∈ invocation.identity :: start.lineage.applied invocation.input.id := by
  have hnone : i ∉ mid.lineage.applied mid.nextId := by
    rw [Lineage.applied, h.numbered _ mid.not_made_nextId]
    exact List.not_mem_nil
  rw [RunState.derive_lineage, Lineage.mem_applied_inherit, RunState.derive_id,
    Lineage.applied_congr (h.entries _ hinput), List.mem_singleton, List.mem_cons,
    or_iff_right hnone, and_iff_right rfl, or_comm]

/-- A derivation that comes out as it should adds to what the invocation knows. -/
theorem Knowledge.derive {roots : List String} {answer : Except PluginError Program × RunState W}
    (h : Knowledge ids invocation start events known reports mid)
    (hinput : start.Made invocation.input.id)
    (houtcome : Outcome (· = unapplied ids ((mid.derive invocation roots).2.lineage.applied
        (mid.derive invocation roots).1.id))
      (mid.derive invocation roots).1 (mid.derive invocation roots).2 answer) :
    ∃ events', Knowledge ids invocation start events' (learn known answer.1) reports answer.2 := by
  obtain ⟨later, stretch, harrives⟩ := houtcome
  -- whatever the derivation comes to, what was known before stays known
  have hstep := h.step hinput (.derive stretch)
  have hsilent : reportsOf (.derived invocation (mid.derive invocation roots).1 :: later)
      invocation = [] := by
    -- the derivation itself is no report, and the rest are events of others
    refine (reportsOf_eq_nil fun e he heq => ?_ : reportsOf later invocation = [])
    exact stretch.not_made e he (heq ▸ h.within.made _ hinput)
  rw [hsilent, List.append_nil] at hstep
  obtain ⟨result, final⟩ := answer
  cases result with
  | error error => exact ⟨_, hstep⟩
  | ok program =>
    obtain ⟨line, arrival, hreturned, hids⟩ := harrives program rfl
    refine ⟨_, hstep.within, hstep.reported, fun other hother => ?_⟩
    rcases List.mem_cons.mp hother with rfl | hother
    · refine .inr ⟨line, ?_, ?_, ?_, ?_⟩
      · rw [List.append_cons]
        exact .derive hinput h.within.numbered h.within stretch arrival
      · exact fun hmade => arrival.not_made (h.within.made _ hmade)
      · exact fun i hi => (hreturned i hi).imp fun _ he =>
          List.mem_append_right _ (List.mem_cons_of_mem _ he)
      · exact hids.trans (unapplied_congr fun _ => h.within.mem_applied_derive hinput)
    · exact hstep.known other hother

/-- **Knowledge is kept.** Every step of an invocation keeps what holds while it runs, if
the nested runs come out as they should. -/
theorem knowledge_invariant {nested : Applying W} (hinput : start.Made invocation.input.id)
    (hnested : ∀ (child : Program) (state : RunState W), state.Numbered → state.Made child.id →
      (∀ i, i ∈ state.lineage.applied child.id ↔
        i ∈ invocation.identity :: start.lineage.applied invocation.input.id) →
      Outcome (· = unapplied ids (state.lineage.applied child.id)) child state
        (nested child state)) :
    Script.Invariant nested invocation fun known reports now =>
      ∃ events, Knowledge ids invocation start events known reports now := by
  -- a single act of the invocation's own, as three of the steps are
  have act : ∀ {known reports reports'} {mid now : RunState W} (e : RunEvent),
      (∃ events, Knowledge ids invocation start events known reports mid) →
      e.invocation = invocation ∧ e.beginning? = none ∧ e.ending? = none →
      (∀ trail, e.extend trail = trail) →
      now.journal = mid.journal ++ [e] → now.lineage = mid.lineage → now.nextId = mid.nextId →
      reports' = reports ++ reportsOf [e] invocation →
      ∃ events, Knowledge ids invocation start events known reports' now := by
    rintro known reports reports' mid now e ⟨events, h⟩ he htrail hjournal hlineage hnext hreports
    refine ⟨_, h.own hinput [e] (fun e' he' => ?_) htrail hjournal hlineage ?_ hreports⟩
    · exact List.mem_singleton.mp he' ▸ he
    · exact Nat.le_of_eq (congrArg ProgramId.number hnext.symm)
  constructor
  · intro known reports state name text h
    exact act _ h ⟨rfl, rfl, rfl⟩ (fun _ => rfl) rfl rfl rfl (List.append_nil _).symm
  · intro known reports state d h
    have hown : reportsOf [.reported invocation d] invocation = [d] :=
      List.filterMap_cons_some (if_pos rfl)
    exact act _ h ⟨rfl, rfl, rfl⟩ (fun _ => rfl) rfl rfl rfl (by rw [hown])
  · intro known reports state h
    exact act _ h ⟨rfl, rfl, rfl⟩ (fun _ => rfl) rfl rfl rfl (List.append_nil _).symm
  · rintro known reports state roots ⟨events, h⟩
    refine h.derive hinput (hnested _ _ (h.within.numbered.derive invocation roots) ?_ ?_)
    · exact RunState.made_derive.mpr (.inr rfl)
    · exact fun _ => h.within.mem_applied_derive hinput
  · rintro known reports state roots options ⟨events, h⟩
    exact ⟨_, h.own hinput [] (fun _ he => absurd he (List.not_mem_nil))
      (fun _ => rfl) (List.append_nil _).symm rfl (Nat.le_succ _) (List.append_nil _).symm⟩
  · rintro known reports state world ⟨events, h⟩
    exact ⟨_, h.own hinput [] (fun _ he => absurd he (List.not_mem_nil))
      (fun _ => rfl) (List.append_nil _).symm rfl (Nat.le_refl _) (List.append_nil _).symm⟩

end Invoking

/-! ### The end of an invocation -/

section Ending

variable {ids : List TransformIdentity} {invocation : Invocation} {state now final : RunState W}
variable {events : List RunEvent}

/-- What happened inside an invocation is a stretch when it ends. -/
theorem Within.stretch {e : RunEvent}
    (h : Within invocation (state.note (.began invocation)) events now)
    (hinput : state.Made invocation.input.id)
    (hnew : invocation.identity ∉ state.lineage.applied invocation.input.id)
    (hend : e.ending? = some invocation) (hjournal : final.journal = now.journal ++ [e])
    (hnext : final.nextId = now.nextId) (hnum : final.Numbered)
    (hentries : ∀ id, state.Made id → id ≠ invocation.input.id →
      final.lineage.find? id = now.lineage.find? id) :
    Stretch invocation.input state (.began invocation :: (events ++ [e])) final := by
  have hmade : ∀ id, now.Made id → final.Made id := by
    intro id hid
    rwa [RunState.Made, hnext]
  -- beginning and end are the invocation's own, and the rest is as `Within` says
  have howner : ∀ e' ∈ RunEvent.began invocation :: (events ++ [e]),
      e'.invocation = invocation ∨
        ¬ state.Made e'.invocation.input.id ∧ now.Made e'.invocation.input.id := by
    intro e' he'
    rcases List.mem_cons.mp he' with rfl | he'
    · exact .inl rfl
    · rcases List.mem_append.mp he' with he' | he'
      · exact (h.inner e' he').imp_left And.left
      · exact .inl (List.mem_singleton.mp he' ▸ RunEvent.invocation_of_ending? hend)
  constructor
  · constructor
    · rw [hjournal, h.journal, RunState.note_journal]
      simp
    · exact fun id hid => hmade id (h.made id hid)
    · exact hnum
    · exact fun id hid => (hentries id hid.1 hid.2).trans (h.entries id hid.1)
    · intro trail id hid
      rw [List.foldl_cons, List.foldl_append, List.foldl_cons, List.foldl_nil,
        RunEvent.extend_of_ending? hend hid.2, h.trail _ _ hid.1]
      rfl
    · rw [begun_cons_began, begun_append, begun_cons_of_none (RunEvent.beginning?_of_ending? hend)]
      refine List.nodup_cons.mpr ⟨fun hmem => ?_, by simpa [begun] using h.once⟩
      -- what begins inside is not the invocation itself, since its program is new
      rcases List.mem_append.mp hmem with hmem | hmem
      · exact (h.of_begun hmem).1 hinput
      · exact absurd hmem List.not_mem_nil
  · intro e' he'
    rcases howner e' he' with heq | ⟨hfresh, -⟩
    · rw [heq]
      exact .inl ⟨rfl, hnew⟩
    · exact .inr hfresh
  · intro e' he'
    rcases howner e' he' with heq | ⟨-, hnow⟩
    · rw [heq]
      exact hmade _ (h.made _ hinput)
    · exact hmade _ hnow

/-- An invocation that returns its input has put itself on the line, and nothing else. -/
theorem Within.arrival (h : Within invocation (state.note (.began invocation)) events now)
    (hinput : state.Made invocation.input.id) :
    Arrival invocation.input state
      (.began invocation :: (events ++ [.returned invocation invocation.input]))
      (now.settle invocation invocation.input (reportsOf events invocation))
      invocation.input [invocation] := by
  have hentry := h.entries _ hinput
  have happlied : ∀ i, i ∈ (now.settle invocation invocation.input
      (reportsOf events invocation)).lineage.applied invocation.input.id ↔
      i ∈ state.lineage.applied invocation.input.id ∨ i ∈ [invocation.identity] := by
    intro i
    rw [RunState.settle_lineage, Lineage.applied_reportAll, Lineage.mem_applied_inherit,
      Lineage.applied_congr hentry, and_iff_right rfl, ← or_assoc, or_self]
    rfl
  constructor
  · exact .inl rfl
  · exact h.made _ hinput
  · intro trail
    rw [List.foldl_cons, List.foldl_append, List.foldl_cons, List.foldl_nil, RunEvent.extend,
      if_pos rfl, Function.update_self, h.trail _ _ hinput]
    rfl
  · exact happlied
  · -- nothing of the invocation was recorded before it returned
    have hnone : recorded events [invocation] = [] := by
      refine recorded_eq_nil fun i hi output he => ?_
      obtain rfl := List.mem_singleton.mp hi
      exact (h.of_ending he rfl).1 hinput
    rw [RunState.settle_lineage, Lineage.diagnostics_reportAll, Lineage.diagnostics_inherit_self,
      Lineage.diagnostics_congr hentry, recorded_of_returned _ (List.mem_singleton_self _), hnone]
    rfl
  · intro e he hid
    refine (happlied _).mpr (.inr (List.mem_singleton.mpr ?_))
    rcases List.mem_cons.mp he with rfl | he
    · rfl
    · rcases List.mem_append.mp he with he | he
      · rcases h.inner e he with ⟨rfl, -, -⟩ | ⟨hfresh, -⟩
        · rfl
        · exact absurd (hid ▸ hinput) hfresh
      · rw [List.mem_singleton.mp he]
        rfl
  · intro i hi
    obtain rfl := List.mem_singleton.mp hi
    exact ⟨_, List.mem_cons_self .., rfl⟩

/-- An invocation that returns what came back to it adds its reports, and nothing else. -/
theorem CameBack.arrival {output : Program} {line : List Invocation}
    (h : CameBack ids invocation (state.note (.began invocation)) events now output line)
    (before : Within invocation (state.note (.began invocation)) events now)
    (hinput : state.Made invocation.input.id) :
    Arrival invocation.input state
      (.began invocation :: (events ++ [.returned invocation output]))
      (now.settle invocation output (reportsOf events invocation)) output
      (invocation :: line) := by
  -- what came back has an entry, with the invocation's own transform among the applied
  have hself : invocation.identity ∈ now.lineage.applied output.id :=
    (h.applied _).mpr (.inr (List.mem_cons_self ..))
  obtain ⟨entry, hentry⟩ := Lineage.exists_entry_of_mem_applied hself
  have hne : output.id ≠ invocation.input.id := fun heq => h.new (heq ▸ hinput)
  constructor
  · exact .inr h.new
  · exact h.made
  · intro trail
    rw [List.foldl_cons, List.foldl_append, List.foldl_cons, List.foldl_nil, RunEvent.extend,
      if_neg hne, h.trail]
    rfl
  · intro i
    -- so the second inheritance hands nothing down that is not there already
    have hold : i ∈ now.lineage.applied invocation.input.id ∨ i ∈ [invocation.identity] →
        i ∈ now.lineage.applied output.id := by
      rw [Lineage.applied_congr (before.entries _ hinput), List.mem_singleton]
      rintro (hi | rfl)
      · exact (h.applied i).mpr (.inl hi)
      · exact hself
    rw [RunState.settle_lineage, Lineage.applied_reportAll, Lineage.mem_applied_inherit,
      and_iff_right rfl, or_iff_left_of_imp hold, h.applied]
    rfl
  · rw [RunState.settle_lineage, Lineage.diagnostics_reportAll,
      Lineage.diagnostics_inherit_of_entry hentry, h.diagnostics,
      recorded_of_returned _ (List.mem_cons_self ..), List.append_assoc]
    rfl
  · intro e he hid
    have hgrown := settle_grows now invocation output (reportsOf events invocation) output.id
    rcases List.mem_cons.mp he with rfl | he
    · exact hgrown _ hself
    · rcases List.mem_append.mp he with he | he
      · exact hgrown _ (h.settled e he hid)
      · rw [List.mem_singleton.mp he]
        exact hgrown _ hself
  · intro i hi
    obtain ⟨e, he, heq⟩ := h.acted i hi
    exact ⟨e, List.mem_cons_of_mem _ (List.mem_append_left _ he), heq⟩

/-- **An invocation that returns has applied itself, or itself and all that was left.** The
first when it returns its input, the second when it returns what came back to it. -/
theorem Knowledge.outcome {known : List Program} {reports : List Diagnostic} {output : Program}
    (h : Knowledge ids invocation (state.note (.began invocation)) events known reports now)
    (hout : output ∈ known) (hinput : state.Made invocation.input.id)
    (hnew : invocation.identity ∉ state.lineage.applied invocation.input.id) :
    Outcome (fun passed => passed = [invocation.identity] ∨
        passed = invocation.identity ::
          unapplied ids (invocation.identity :: state.lineage.applied invocation.input.id))
      invocation.input state
      ((.ok output, now.settle invocation output reports) : Except Failure Program × RunState W) := by
  obtain rfl := h.reported
  have hinput_or_back := h.known output hout
  -- `settle` changes the entry of the output alone, and that is the input or new
  have hmade : now.Made output.id := by
    rcases hinput_or_back with rfl | ⟨line, back⟩
    · exact h.within.made _ hinput
    · exact back.made
  have hkept : ∀ id, state.Made id → id ≠ invocation.input.id → id ≠ output.id := by
    rintro id hid hne rfl
    rcases hinput_or_back with rfl | ⟨line, back⟩
    · exact hne rfl
    · exact back.new hid
  have hlast : .returned invocation output ∈
      RunEvent.began invocation :: (events ++ [.returned invocation output]) :=
    List.mem_cons_of_mem _ (List.mem_append_right _ (List.mem_singleton_self _))
  refine ⟨_, h.within.stretch hinput hnew rfl rfl rfl
    (h.within.numbered.settle invocation hmade _) fun id hid hne => ?_, fun output' heq => ?_⟩
  · rw [RunState.settle_lineage, Lineage.find?_reportAll_of_ne (hkept id hid hne),
      Lineage.find?_inherit_of_ne (hkept id hid hne)]
  · obtain rfl := Except.ok.inj heq
    rcases hinput_or_back with rfl | ⟨line, back⟩
    · -- the input came back: the invocation stands alone on the line
      refine ⟨_, h.within.arrival hinput, fun i hi => ?_, .inl rfl⟩
      obtain rfl := List.mem_singleton.mp hi
      exact ⟨_, hlast⟩
    · -- what it derived came back: after the invocation stands all that was left
      refine ⟨_, back.arrival h.within hinput, fun i hi => ?_, .inr ?_⟩
      · rcases List.mem_cons.mp hi with rfl | hi
        · exact ⟨_, hlast⟩
        · exact (back.returned i hi).imp fun _ he =>
            List.mem_cons_of_mem _ (List.mem_append_left _ he)
      · exact congrArg (invocation.identity :: ·) back.identities

end Ending

/-! ### Runs -/

/-- The transform is one of whole programs that returns its input or a program that it
derived, if it does not fail. -/
def ResolvedTransform.StaysOnLine (t : ResolvedTransform W) : Prop :=
  ∃ transform, t.value = .program transform ∧
    ∀ invocation, (transform invocation).YieldsFrom [invocation.input]

/-- Report a diagnostic and leave the program as it is. -/
def announce (d : Diagnostic) : ProgramTransform W := fun invocation =>
  .report d (.done invocation.input)

/-- Report a diagnostic, derive a program in vain, and then derive one from the root names
that the line started from. -/
def rebuild (d : Diagnostic) : ProgramTransform W := fun _ =>
  .report d (.derive [] fun _ => .originRoots .deriveOrFail)

theorem announce_staysOnLine (module : String) (d : Diagnostic) :
    (ResolvedTransform.ofScript module (announce d : ProgramTransform W)).StaysOnLine :=
  ⟨_, rfl, fun _ => List.mem_singleton_self _⟩

theorem rebuild_staysOnLine (module : String) (d : Diagnostic) :
    (ResolvedTransform.ofScript module (rebuild d : ProgramTransform W)).StaysOnLine :=
  ⟨_, rfl, fun _ _ roots => Script.yieldsFrom_deriveOrFail _ roots⟩

section Running

variable {ids : List TransformIdentity} {nested : Applying W}
variable {program : Program} {state : RunState W}

/-- A stretch that arrived and what comes of going on from there. -/
theorem Outcome.after {ε : Type} {expected expected' : List TransformIdentity → Prop}
    {events : List RunEvent} {middle : Program} {mid : RunState W} {line : List Invocation}
    {answer : Except ε Program × RunState W} (last : Outcome expected' middle mid answer)
    (before : Stretch program state events mid)
    (first : Arrival program state events mid middle line)
    (hreturned : ∀ i ∈ line, ∃ result, .returned i result ∈ events)
    (hexpected : ∀ passed, expected' passed →
      expected (line.map Invocation.identity ++ passed)) :
    Outcome expected program state answer := by
  obtain ⟨later, after, harrives⟩ := last
  refine ⟨events ++ later, before.trans first after, fun output hout => ?_⟩
  obtain ⟨line', arrival, hreturned', hpassed⟩ := harrives output hout
  refine ⟨line ++ line', first.trans arrival before after, fun i hi => ?_, ?_⟩
  · rcases List.mem_append.mp hi with hi | hi
    · exact (hreturned i hi).imp fun _ => List.mem_append_left _
    · exact (hreturned' i hi).imp fun _ => List.mem_append_right _
  · rw [List.map_append]
    exact hexpected _ hpassed

/-- What an invocation comes to, if the runs of what it derives come out as they should. -/
theorem invoke_outcome {transform : ProgramTransform W} {invocation : Invocation}
    (hstays : (transform invocation).YieldsFrom [invocation.input]) (hnum : state.Numbered)
    (hinput : state.Made invocation.input.id)
    (hnew : invocation.identity ∉ state.lineage.applied invocation.input.id)
    (hnested : ∀ (child : Program) (state' : RunState W), state'.Numbered →
      state'.Made child.id →
      (∀ i, i ∈ state'.lineage.applied child.id ↔
        i ∈ invocation.identity :: state.lineage.applied invocation.input.id) →
      Outcome (· = unapplied ids (state'.lineage.applied child.id)) child state'
        (nested child state')) :
    Outcome (fun passed => passed = [invocation.identity] ∨
        passed = invocation.identity ::
          unapplied ids (invocation.identity :: state.lineage.applied invocation.input.id))
      invocation.input state (invoke nested transform invocation state) := by
  have hstart : Knowledge ids invocation (state.note (.began invocation)) []
      [invocation.input] [] (state.note (.began invocation)) :=
    ⟨.refl hnum, rfl, fun program hp => .inl (List.mem_singleton.mp hp)⟩
  have hmade : (state.note (.began invocation)).Made invocation.input.id := hinput
  obtain ⟨known, reports, ⟨events, h⟩, hyields⟩ :=
    (knowledge_invariant hmade hnested).run (transform invocation) _ _ ⟨_, hstart⟩
  rcases invoke_cases nested transform invocation state with
    ⟨output, reports', now, heq, hinv⟩ | ⟨failure, now, heq, hinv⟩
  · rw [heq] at h hyields
    rw [hinv]
    obtain ⟨rfl, hknown⟩ := hyields output reports' rfl
    exact h.outcome (hknown hstays) hinput hnew
  · rw [heq] at h
    rw [hinv]
    exact ⟨_, h.within.stretch hinput hnew rfl rfl rfl h.within.numbered fun _ _ _ => rfl,
      fun _ heq' => nomatch heq'⟩

/-- **The loop applies what is left.** Those of the list that stand before the rest are
applied already. -/
theorem applyAll_outcome {depth : Nat} {rest : List (ResolvedTransform W)}
    (hstays : ∀ t ∈ rest, t.StaysOnLine)
    (hnested : ∀ (child : Program) (state : RunState W), state.Numbered → state.Made child.id →
      (unapplied ids (state.lineage.applied child.id)).length ≤ depth →
      Outcome (· = unapplied ids (state.lineage.applied child.id)) child state
        (nested child state))
    (before : List TransformIdentity)
    (hids : ids = before ++ rest.map ResolvedTransform.identity)
    (hbefore : ∀ i ∈ before, i ∈ state.lineage.applied program.id)
    (hnum : state.Numbered) (hmade : state.Made program.id)
    (hdepth : (unapplied ids (state.lineage.applied program.id)).length ≤ depth + 1) :
    Outcome (· = unapplied ids (state.lineage.applied program.id)) program state
      (applyAll nested rest program state) := by
  induction rest generalizing before program state with
  | nil =>
    refine ⟨[], .refl _ hnum, fun output heq => ⟨[], ?_, fun _ hi => ?_, ?_⟩⟩
    · obtain rfl := Except.ok.inj heq
      exact .refl hmade
    · exact absurd hi (List.not_mem_nil)
    · rw [List.map_nil, List.append_nil] at hids
      exact (unapplied_eq_nil (hids ▸ hbefore)).symm
  | cons t rest ih =>
    have hstays' : ∀ t ∈ rest, t.StaysOnLine := fun t ht => hstays t (List.mem_cons_of_mem _ ht)
    rw [List.map_cons] at hids
    by_cases happlied : t.identity ∈ state.lineage.applied program.id
    · -- `t` is passed over and joins those that are applied already
      rw [applyAll_cons_of_applied happlied]
      refine ih hstays' (before ++ [t.identity]) ?_ ?_ hnum hmade hdepth
      · rw [hids, List.append_cons]
      · exact List.forall_mem_append.mpr ⟨hbefore, List.forall_mem_singleton.mpr happlied⟩
    · obtain ⟨transform, hv, hyields⟩ := hstays t (List.mem_cons_self ..)
      -- those before `t` are applied, so `t` is the first of those that are left
      have hleft : unapplied ids (state.lineage.applied program.id) = t.identity ::
          unapplied ids (t.identity :: state.lineage.applied program.id) := by
        rw [hids]
        exact unapplied_of_first hbefore happlied
      obtain ⟨events, stretch, harrives⟩ :=
        invoke_outcome (hyields (t.invocationOn program)) hnum hmade happlied
          fun child state' hnum' hmade' hids' => hnested child state' hnum' hmade' <| by
            -- the transform itself is one of those that were left
            rw [hleft, List.length_cons] at hdepth
            rw [unapplied_congr hids']
            exact Nat.le_of_succ_le_succ hdepth
      rw [applyAll_cons_of_new happlied hv]
      generalize invoke nested transform (t.invocationOn program) state = answer at *
      obtain ⟨result, mid⟩ := answer
      cases result with
      | error failure => exact ⟨events, stretch, fun _ heq => nomatch heq⟩
      | ok middle =>
        obtain ⟨line, arrival, hreturned, hpassed⟩ := harrives middle rfl
        -- whether one transform was applied or all, the rest of the loop does the rest
        have hsplit : unapplied ids (state.lineage.applied program.id) =
            line.map Invocation.identity ++ unapplied ids (mid.lineage.applied middle.id) := by
          rw [hids] at hpassed ⊢
          exact unapplied_eq_append hbefore happlied hpassed arrival.applied
        refine Outcome.after (ih hstays' (before ++ [t.identity]) ?_ ?_ stretch.numbered
          arrival.made ?_) stretch arrival hreturned ?_
        · rw [hids, List.append_cons]
        · refine List.forall_mem_append.mpr ⟨fun i hi => ?_, List.forall_mem_singleton.mpr ?_⟩
          · exact (arrival.applied i).mpr (.inl (hbefore i hi))
          · refine (arrival.applied _).mpr (.inr ?_)
            rcases hpassed with heq | heq
            · rw [heq]
              exact List.mem_cons_self ..
            · rw [heq]
              exact List.mem_cons_self ..
        · rw [hsplit, List.length_append] at hdepth
          exact Nat.le_trans (Nat.le_add_left ..) hdepth
        · rintro passed rfl
          exact hsplit.symm

/-- **Every run applies what is left.** As long as the transforms return their input or
what they derived, and the derivations may go as deep as there are transforms left, the
transforms of the list that were not applied before are invoked along the line of the
output, each once, in the order of the list. -/
theorem applyWithin_outcome {transforms : List (ResolvedTransform W)}
    (hstays : ∀ t ∈ transforms, t.StaysOnLine) (depth : Nat) (program : Program)
    (state : RunState W) (hnum : state.Numbered) (hmade : state.Made program.id)
    (hdepth : (unapplied (transforms.map ResolvedTransform.identity)
      (state.lineage.applied program.id)).length ≤ depth) :
    Outcome (· = unapplied (transforms.map ResolvedTransform.identity)
        (state.lineage.applied program.id)) program state
      (applyWithin transforms depth program state) := by
  induction depth generalizing program state with
  | zero =>
    -- nothing is left to apply, and nothing happens
    refine ⟨[], .refl _ hnum, fun output heq => ⟨[], ?_, fun _ hi => ?_, ?_⟩⟩
    · obtain rfl := Except.ok.inj heq
      exact .refl hmade
    · exact absurd hi (List.not_mem_nil)
    · exact (List.length_eq_zero_iff.mp (Nat.le_zero.mp hdepth)).symm
  | succ depth ih =>
    exact applyAll_outcome hstays ih [] rfl (fun _ hi => absurd hi (List.not_mem_nil))
      hnum hmade hdepth

/-- There are never more transforms left than the list has. -/
theorem applyTransforms_outcome {transforms : List (ResolvedTransform W)}
    (hstays : ∀ t ∈ transforms, t.StaysOnLine) {program : Program} {state : RunState W}
    (hnum : state.Numbered) (hmade : state.Made program.id) :
    Outcome (· = unapplied (transforms.map ResolvedTransform.identity)
        (state.lineage.applied program.id)) program state
      (applyTransforms transforms program state) :=
  applyWithin_outcome hstays transforms.length program state hnum hmade <|
    Nat.le_trans length_unapplied_le (Nat.le_of_eq (List.length_map _))

/-- **What a successful run leaves behind.** The events that it adds to the journal are a
stretch that arrives at the output, with the line that the journal shows for it. -/
theorem applyTransforms_arrival {transforms : List (ResolvedTransform W)}
    (hstays : ∀ t ∈ transforms, t.StaysOnLine) {program output : Program}
    {state final : RunState W} (hnum : state.Numbered) (hmade : state.Made program.id)
    (h : applyTransforms transforms program state = (.ok output, final)) :
    Stretch program state (happened state final) final ∧
    Arrival program state (happened state final) final output
      (lineOf (happened state final) output.id) ∧
    (∀ i ∈ lineOf (happened state final) output.id,
      ∃ result, .returned i result ∈ happened state final) ∧
    (lineOf (happened state final) output.id).map Invocation.identity =
      unapplied (transforms.map ResolvedTransform.identity)
        (state.lineage.applied program.id) := by
  obtain ⟨events, stretch, harrives⟩ := applyTransforms_outcome hstays hnum hmade
  rw [h] at stretch harrives
  obtain ⟨line, arrival, hreturned, hids⟩ := harrives output rfl
  obtain rfl := happened_eq stretch.journal
  have hline : lineOf (happened state final) output.id = line := arrival.trail fun _ => []
  rw [hline]
  exact ⟨stretch, arrival, hreturned, hids⟩

end Running

end TransformerEngine
