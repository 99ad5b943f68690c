import TransformerEngine.Proofs.Lineage.Once
import TransformerEngine.Session.Basic

/-!
# Reports along a line

What a run adds to the reports of its output is what the invocations of the output's line
have reported, nothing else and nothing twice (`applyTransforms_diagnostics_perm`).

The order is that of the returns: an invocation's reports are kept aside until it returns.
So they stand in the order in which they were made unless two invocations of the line
*overlap*, the inner one reporting after the outer one has done so already
(`applyTransforms_reports_in_order_iff`). That is what a transform does which reports and
then derives a program that another transform has something to report on.
-/

namespace TransformerEngine

variable {W : Type}

/-! ### Who returned -/

theorem returnedAmong_sublist (events : List RunEvent) (line : List Invocation) :
    (returnedAmong events line).Sublist (ended events) := by
  induction events with
  | nil => exact List.Sublist.refl _
  | cons e events ih =>
    cases e with
    | returned i output =>
      by_cases hi : i ∈ line
      · have hcons : returnedAmong (.returned i output :: events) line =
            i :: returnedAmong events line := List.filterMap_cons_some (if_pos hi)
        rw [hcons]
        exact ih.cons_cons i
      · have hcons : returnedAmong (.returned i output :: events) line =
            returnedAmong events line := List.filterMap_cons_none (if_neg hi)
        rw [hcons]
        exact ih.cons i
    | failed i failure => exact ih.cons i
    | _ => exact ih

namespace Stacked

variable {events : List RunEvent} {a : Invocation} {e e' : RunEvent}

theorem nodup_ended (h : Stacked [] events []) (once : (begun events).Nodup) :
    (TransformerEngine.ended events).Nodup := by
  have hnodup := h.nodup_stack once
  rwa [List.append_nil] at hnodup

theorem ending_unique (h : Stacked [] events []) (once : (begun events).Nodup) (he : e ∈ events)
    (he' : e' ∈ events) (hend : e.ending? = some a) (hend' : e'.ending? = some a) : e = e' := by
  obtain ⟨earlier, later, rfl⟩ := List.append_of_mem he
  rcases List.mem_append.mp he' with hmem | hmem
  · -- `e'` would be an end before `e`, which is an event of the same invocation
    obtain ⟨first, between, rfl⟩ := List.append_of_mem hmem
    rw [List.append_assoc, List.cons_append] at h once
    refine absurd (RunEvent.invocation_of_ending? hend) (h.not_mem_after_end once hend' e ?_)
    exact List.mem_append_right _ (List.mem_cons_self ..)
  · rcases List.mem_cons.mp hmem with rfl | hmem
    · rfl
    · exact absurd (RunEvent.invocation_of_ending? hend')
        (h.not_mem_after_end once hend e' hmem)

end Stacked

/-- What is recorded along a line is what the invocations of the line have reported. -/
theorem recorded_perm {events : List RunEvent} {line : List Invocation}
    (h : Stacked [] events []) (once : (begun events).Nodup) (hline : line.Nodup)
    (hreturned : ∀ i ∈ line, ∃ result, .returned i result ∈ events) :
    (recorded events line).Perm (line.flatMap (reportsOf events)) := by
  -- neither has anybody twice, and they have the same members
  have hnodup : (returnedAmong events line).Nodup :=
    (h.nodup_ended once).sublist (returnedAmong_sublist events line)
  have hperm : (returnedAmong events line).Perm line :=
    (List.perm_ext_iff_of_nodup hnodup hline).mpr fun i =>
      mem_returnedAmong.trans (and_iff_left_of_imp (hreturned i))
  exact hperm.flatMap_right _

/-- **No report is lost and none is doubled.** If a run of transforms that return their
input or what they derived succeeds, then the reports of its output are those that the
program had before and, for each invocation along the line from `program` to `output`,
one copy of what it reported; and none of these invocations failed. So neither failed
invocations nor those on programs that were thrown away contribute anything. -/
theorem applyTransforms_diagnostics_perm {transforms : List (ResolvedTransform W)}
    (stays : ∀ t ∈ transforms, t.StaysOnLine) {program output : Program}
    {state final : RunState W} (numbered : state.Numbered) (made : state.Made program.id)
    (h : applyTransforms transforms program state = (.ok output, final)) :
    (final.lineage.diagnostics output.id).Perm
      (state.lineage.diagnostics program.id ++
        (lineOf (happened state final) output.id).flatMap (reportsOf (happened state final))) ∧
    ∀ i ∈ lineOf (happened state final) output.id, ∀ failure,
      .failed i failure ∉ happened state final := by
  obtain ⟨stretch, arrival, hreturned, hids⟩ := applyTransforms_arrival stays numbered made h
  have hstacked := applyTransforms_stacked h []
  constructor
  · -- no transform stands twice on the line, so no invocation does
    have hline : (lineOf (happened state final) output.id).Nodup := by
      refine List.Nodup.of_map Invocation.identity ?_
      rw [hids]
      exact nodup_unapplied
    rw [arrival.diagnostics]
    exact (recorded_perm hstacked stretch.once hline hreturned).append_left _
  · -- who returned cannot have failed too, for that would be a second end
    intro i hi failure hfailed
    obtain ⟨result, he⟩ := hreturned i hi
    exact nomatch hstacked.ending_unique stretch.once he hfailed rfl rfl

/-- Both what `inject` and what `lint` reported is there, but not what `lint` reported on
the program that `inject` threw away; what `check` reported before is kept. -/
theorem applyTransforms_diagnostics_perm_sample :
    applyTransforms Sample.transforms Sample.entry Sample.start =
      (.ok Sample.output, Sample.final) ∧
    ((happened Sample.start Sample.final).countP fun e => e matches .reported ..) = 3 ∧
    (Sample.final.lineage.diagnostics Sample.output.id).Perm
      [.error 3 "checked", .error 1 "injected", .error 2 "linted"] := by
  obtain ⟨hperm, -⟩ := applyTransforms_diagnostics_perm Sample.staysOnLine Sample.numbered
    Sample.made Sample.run_eq
  exact ⟨Sample.run_eq, rfl, hperm⟩

/-! ### The order of reports -/

/-- The reports of an invocation with their positions among all events. -/
def callsOf (events : List RunEvent) (i : Invocation) : List (Nat × Diagnostic) :=
  events.zipIdx.filterMap fun x => (x.1.reportBy? i).map fun d => (x.2, d)

/-- What those of `line` that returned have reported, in the order of their returns, with
the positions of the reports. -/
def recordedCalls (events : List RunEvent) (line : List Invocation) : List (Nat × Diagnostic) :=
  (returnedAmong events line).flatMap (callsOf events)

/-- One invocation of the line reports after another one has reported and before that
other one returns. -/
def Overlap (events : List RunEvent) (line : List Invocation) : Prop :=
  ∃ outer ∈ line, ∃ inner ∈ line, outer ≠ inner ∧ ∃ m n k : Nat, m < n ∧ n < k ∧
    (∃ d, events[m]? = some (RunEvent.reported outer d)) ∧
    (∃ d, events[n]? = some (RunEvent.reported inner d)) ∧
    ∃ result, events[k]? = some (RunEvent.returned outer result)

theorem mem_callsOf {events : List RunEvent} {i : Invocation} {n : Nat} {d : Diagnostic} :
    (n, d) ∈ callsOf events i ↔ events[n]? = some (.reported i d) := by
  rw [callsOf, List.mem_filterMap]
  constructor
  · rintro ⟨⟨e, m⟩, he, heq⟩
    obtain ⟨d', hreport, heq⟩ := Option.map_eq_some_iff.mp heq
    obtain ⟨rfl, rfl⟩ := Prod.mk.inj heq
    rw [← RunEvent.reportBy?_eq_some.mp hreport]
    exact List.mem_zipIdx_iff_getElem?.mp he
  · intro h
    refine ⟨(.reported i d, n), List.mem_zipIdx_iff_getElem?.mpr h, ?_⟩
    exact Option.map_eq_some_iff.mpr ⟨d, RunEvent.reportBy?_eq_some.mpr rfl, rfl⟩

theorem map_snd_callsOf (events : List RunEvent) (i : Invocation) :
    (callsOf events i).map Prod.snd = reportsOf events i := by
  -- both sides become one filter over the events with their positions
  conv_rhs => rw [reportsOf, ← List.zipIdx_map_fst 0 events, List.filterMap_map]
  rw [callsOf, List.map_filterMap]
  refine List.filterMap_congr fun x _ => ?_
  rw [Option.map_map]
  exact Option.map_id'

theorem map_snd_recordedCalls (events : List RunEvent) (line : List Invocation) :
    (recordedCalls events line).map Prod.snd = recorded events line := by
  rw [recordedCalls, List.map_flatMap]
  exact List.flatMap_congr fun i _ => map_snd_callsOf events i

/-- An invocation's own reports are kept in order. -/
theorem pairwise_callsOf (events : List RunEvent) (i : Invocation) :
    (callsOf events i).Pairwise fun x y => x.1 < y.1 := by
  have hpositions : events.zipIdx.Pairwise fun x y => x.2 < y.2 := by
    rw [← List.pairwise_map (f := Prod.snd) (R := (· < ·)), List.zipIdx_map_snd]
    exact List.pairwise_lt_range'
  refine hpositions.filterMap _ fun x y hlt c hc c' hc' => ?_
  obtain ⟨d, -, rfl⟩ := Option.map_eq_some_iff.mp hc
  obtain ⟨d', -, rfl⟩ := Option.map_eq_some_iff.mp hc'
  exact hlt

/-- Two of the line are recorded in the order in which they returned. -/
theorem pairwise_returnedAmong_iff {events : List RunEvent} {line : List Invocation}
    {R : Invocation → Invocation → Prop} :
    (returnedAmong events line).Pairwise R ↔
      ∀ i ∈ line, ∀ j ∈ line, ∀ (result result' : Program) (k k' : Nat), k < k' →
        events[k]? = some (.returned i result) → events[k']? = some (.returned j result') →
        R i j := by
  rw [returnedAmong, List.pairwise_filterMap, List.pairwise_iff_getElem]
  constructor
  · intro h i hi j hj result result' k k' hlt hk hk'
    obtain ⟨hk, heq⟩ := List.getElem?_eq_some_iff.mp hk
    obtain ⟨hk', heq'⟩ := List.getElem?_eq_some_iff.mp hk'
    exact h k k' hk hk' hlt i (RunEvent.returnAmong?_eq_some.mpr ⟨hi, result, heq⟩)
      j (RunEvent.returnAmong?_eq_some.mpr ⟨hj, result', heq'⟩)
  · intro h k k' hk hk' hlt i hreturn j hreturn'
    obtain ⟨hi, result, heq⟩ := RunEvent.returnAmong?_eq_some.mp hreturn
    obtain ⟨hj, result', heq'⟩ := RunEvent.returnAmong?_eq_some.mp hreturn'
    exact h i hi j hj result result' k k' hlt (heq ▸ List.getElem?_eq_getElem hk)
      (heq' ▸ List.getElem?_eq_getElem hk')

theorem split_getElem? {α : Type} {xs : List α} {k : Nat} {x : α} (h : xs[k]? = some x) :
    xs = xs.take k ++ x :: xs.drop (k + 1) := by
  obtain ⟨hk, rfl⟩ := List.getElem?_eq_some_iff.mp h
  rw [List.getElem_cons_drop, List.take_append_drop]

namespace Stacked

variable {events : List RunEvent} {a : Invocation} {e e' x y z : RunEvent} {m n k : Nat}

/-- No event of an invocation stands behind its end. -/
theorem le_of_ending (h : Stacked [] events []) (once : (begun events).Nodup)
    (hk : events[k]? = some e) (hend : e.ending? = some a) (hm : events[m]? = some e')
    (he' : e'.invocation = a) : m ≤ k := by
  by_contra hlt
  have hlater : e' ∈ events.drop (k + 1) := by
    refine List.mem_of_getElem? (i := m - (k + 1)) ?_
    rwa [List.getElem?_drop, Nat.add_sub_of_le (Nat.lt_of_not_le hlt)]
  rw [split_getElem? hk] at h once
  exact h.not_mem_after_end once hend e' hlater he'

/-- If one invocation acts after another has acted and before that other one ends, then
its own end stands before the other's. -/
theorem exists_ending_lt (h : Stacked [] events []) (once : (begun events).Nodup)
    (hmn : m < n) (hnk : n < k) (hm : events[m]? = some x) (hn : events[n]? = some y)
    (hk : events[k]? = some z) (hx : x.beginning? = none) (hx' : x.ending? = none)
    (hy : y.beginning? = none) (hy' : y.ending? = none) (hz : z.ending? = some x.invocation)
    (hne : y.invocation ≠ x.invocation) :
    ∃ k' e, k' < k ∧ events[k']? = some e ∧ e.ending? = some y.invocation := by
  -- the events after `x`, and of these the ones after `y`
  have hn' : (events.drop (m + 1))[n - (m + 1)]? = some y := by
    rwa [List.getElem?_drop, Nat.add_sub_of_le hmn]
  have hk' : ((events.drop (m + 1)).drop (n - (m + 1) + 1))[k - (n + 1)]? = some z := by
    rw [List.getElem?_drop, List.getElem?_drop, ← hk]
    congr 1
    omega
  have hsplit := split_getElem? hm
  rw [split_getElem? hn', split_getElem? hk'] at hsplit
  have hmem := mem_ended_between hx hx' hy hy' hz hne (hsplit ▸ h) (hsplit ▸ once)
  obtain ⟨e, he, hend⟩ := List.mem_filterMap.mp hmem
  obtain ⟨j, hj⟩ := List.mem_iff_getElem?.mp he
  rw [List.getElem?_take, Option.ite_none_right_eq_some, List.getElem?_drop,
    List.getElem?_drop] at hj
  exact ⟨_, e, by omega, hj.2, hend⟩

end Stacked

/-- **Reports are in order unless two invocations overlap.** -/
theorem pairwise_recordedCalls_iff {events : List RunEvent} {line : List Invocation}
    (h : Stacked [] events []) (once : (begun events).Nodup)
    (hreturned : ∀ i ∈ line, ∃ result, .returned i result ∈ events) :
    (recordedCalls events line).Pairwise (fun x y => x.1 < y.1) ↔ ¬ Overlap events line := by
  -- each invocation's own reports are in order, so it is about pairs of invocations
  rw [recordedCalls, List.pairwise_flatMap, and_iff_right fun i _ => pairwise_callsOf events i,
    pairwise_returnedAmong_iff]
  constructor
  · rintro horder ⟨outer, houter, inner, hinner, hne, m, n, k, hmn, hnk, ⟨d, hm⟩, ⟨d', hn⟩,
      result, hk⟩
    -- the inner one ends first, so its later report is recorded first
    obtain ⟨k', e, hlt, he, hend⟩ :=
      h.exists_ending_lt once hmn hnk hm hn hk rfl rfl rfl rfl rfl hne.symm
    obtain ⟨result', hret⟩ := hreturned inner hinner
    obtain rfl : e = .returned inner result' :=
      h.ending_unique once (List.mem_of_getElem? he) hret hend rfl
    have hnm := horder inner hinner outer houter result' result k' k hlt he hk
      (n, d') (mem_callsOf.mpr hn) (m, d) (mem_callsOf.mpr hm)
    exact Nat.lt_asymm hmn hnm
  · intro hno i hi j hj result result' k k' hlt hk hk' ⟨n, d⟩ hn ⟨m, d'⟩ hm
    -- `i` returned before `j`, so an earlier report of `j` than of `i` is an overlap
    rw [mem_callsOf] at hn hm
    have hne : j ≠ i := by
      rintro rfl
      exact absurd (h.le_of_ending once hk rfl hk' rfl) (Nat.not_le_of_lt hlt)
    have hnk : n ≤ k := h.le_of_ending once hk rfl hn rfl
    by_contra hnot
    have hmn : m < n := by
      refine Nat.lt_of_le_of_ne (Nat.le_of_not_lt hnot) ?_
      rintro rfl
      exact hne (RunEvent.reported.inj (Option.some.inj (hm.symm.trans hn))).1
    exact hno ⟨j, hj, i, hi, hne, m, n, k', hmn, Nat.lt_of_le_of_lt hnk hlt, ⟨d', hm⟩, ⟨d, hn⟩,
      result', hk'⟩

theorem mem_recordedCalls {events : List RunEvent} {line : List Invocation}
    (hreturned : ∀ i ∈ line, ∃ result, .returned i result ∈ events) {n : Nat} {d : Diagnostic} :
    (n, d) ∈ recordedCalls events line ↔ ∃ i ∈ line, events[n]? = some (.reported i d) := by
  rw [recordedCalls, List.mem_flatMap]
  refine exists_congr fun i => ?_
  rw [mem_callsOf, mem_returnedAmong, and_iff_left_of_imp (hreturned i)]

/-! ### What an emission shows of them -/

namespace Session

variable {session session' : Session W} {workspace workspace' : Workspace W}

theorem resolvePlugins_lineage (options : CompilerOptions) (session : Session W)
    (workspace : Workspace W) :
    (resolvePlugins options session workspace).2.1.lineage = session.lineage := by
  unfold resolvePlugins
  cases PluginDescriptor.ofEntries options.plugins session.baseDirectory <;> rfl

/-- What is recorded along a program's line stands together and in order among the
diagnostics of its emission. -/
theorem emit_diagnostics {program : Program} {target : Option SourceFile}
    {caller : TransformerGroup W} {write : Writer W} {result : EmitResult}
    (h : emit program target caller write session workspace = (.ok result, session', workspace')) :
    session.lineage.diagnostics program.id <:+: result.diagnostics := by
  have hlineage := resolvePlugins_lineage program.options session workspace
  unfold emit at h
  generalize resolvePlugins program.options session workspace = answer at h hlineage
  obtain ⟨answer, found, rest⟩ := answer
  cases answer with
  | error error => exact nomatch congrArg Prod.fst h
  | ok resolved =>
    rw [← Except.ok.inj (congrArg Prod.fst h), ← hlineage]
    exact ⟨_, _, List.append_assoc ..⟩

end Session

namespace Sample

/-- A session in which the run has just ended. -/
def session : Session Unit := { lineage := final.lineage }

def workspace : Workspace Unit where
  nextId := ⟨3⟩
  world := ()

/-- What an emission of `output` in this session comes to. -/
def emitted : EmitResult :=
  ⟨false, [.error 3 "checked", .error 2 "linted", .error 1 "injected"], []⟩

theorem emit_eq : Session.emit output none {} (fun _ _ => ()) session workspace =
    (.ok emitted, session, workspace) := rfl

end Sample

/-- **When reports are in order.** If a run of transforms that return their input or what
they derived succeeds, then what it adds to the reports of its output are the reports of
the invocations along the line from `program` to `output`, in the order in which these
returned. Of any two of them the one that was made earlier stands earlier if and only if
no two invocations of the line overlap. An emission of the output shows them in the same
order. -/
theorem applyTransforms_reports_in_order_iff {transforms : List (ResolvedTransform W)}
    (stays : ∀ t ∈ transforms, t.StaysOnLine) {program output : Program}
    {state final : RunState W} (numbered : state.Numbered) (made : state.Made program.id)
    (h : applyTransforms transforms program state = (.ok output, final)) :
    let events := happened state final
    let line := lineOf events output.id
    let calls := recordedCalls events line
    final.lineage.diagnostics output.id =
      state.lineage.diagnostics program.id ++ calls.map Prod.snd ∧
    (∀ n d, (n, d) ∈ calls ↔ ∃ i ∈ line, events[n]? = some (.reported i d)) ∧
    (calls.Pairwise (fun x y => x.1 < y.1) ↔ ¬ Overlap events line) ∧
    ∀ (session session' : Session W) (workspace workspace' : Workspace W)
      (target : Option SourceFile) (caller : TransformerGroup W) (write : Writer W)
      (result : EmitResult), session.lineage = final.lineage →
      session.emit output target caller write workspace = (.ok result, session', workspace') →
      final.lineage.diagnostics output.id <:+: result.diagnostics := by
  obtain ⟨stretch, arrival, hreturned, -⟩ := applyTransforms_arrival stays numbered made h
  refine ⟨?_, fun n d => mem_recordedCalls hreturned, ?_, ?_⟩
  · rw [arrival.diagnostics, map_snd_recordedCalls]
  · exact pairwise_recordedCalls_iff (applyTransforms_stacked h []) stretch.once hreturned
  · -- an emission puts the program's own diagnostics first and later reports last
    intro session session' workspace workspace' target caller write result hlineage hemit
    rw [← hlineage]
    exact Session.emit_diagnostics hemit

/-- Here `inject` reports and then derives the program on which `lint` reports. So they
overlap, and what `lint` reported later stands first, in an emission as well. -/
theorem applyTransforms_reports_in_order_iff_sample :
    applyTransforms Sample.transforms Sample.entry Sample.start =
      (.ok Sample.output, Sample.final) ∧
    Sample.final.lineage.diagnostics Sample.output.id =
      [.error 3 "checked", .error 2 "linted", .error 1 "injected"] ∧
    recordedCalls (happened Sample.start Sample.final)
        (lineOf (happened Sample.start Sample.final) Sample.output.id) =
      [(9, .error 2 "linted"), (1, .error 1 "injected")] ∧
    Overlap (happened Sample.start Sample.final)
      (lineOf (happened Sample.start Sample.final) Sample.output.id) ∧
    Session.emit Sample.output none {} (fun _ _ => ()) Sample.session Sample.workspace =
      (.ok Sample.emitted, Sample.session, Sample.workspace) ∧
    Sample.final.lineage.diagnostics Sample.output.id <:+: Sample.emitted.diagnostics := by
  obtain ⟨hdiagnostics, -, horder, hemit⟩ := applyTransforms_reports_in_order_iff
    Sample.staysOnLine Sample.numbered Sample.made Sample.run_eq
  refine ⟨Sample.run_eq, hdiagnostics, rfl, ?_, Sample.emit_eq,
    hemit _ _ _ _ _ _ _ _ rfl Sample.emit_eq⟩
  by_contra hno
  exact absurd (horder.mpr hno) (by decide)

end TransformerEngine
