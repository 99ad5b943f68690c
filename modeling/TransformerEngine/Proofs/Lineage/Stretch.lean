import TransformerEngine.Proofs.Lineage.Growth
import TransformerEngine.Proofs.Lineage.Line

/-!
# Stretches of a run

Three relations say what a part of a run leaves behind:

* `Within`: what happens inside an invocation leaves every program alone that was made
  before. All it touches is new.
* `Stretch`: what happens while a program is handed from transform to transform leaves
  every other program alone that was made before.
* `Arrival`: where such a stretch arrives. The output has been through what the program
  had been through and the transforms of a line, and its reports are those of the program
  and what the invocations of that line have recorded.

All three chain (`Within.trans`, `Stretch.trans`, `Arrival.trans`), since programs are
numbered upwards: whatever a later part touches is either the output of the earlier part
or was not there yet. A derivation is a stretch inside an invocation (`Within.derive`), and
where it arrives is in line with the invocation's input (`Arrival.derive`).
-/

namespace TransformerEngine

variable {W : Type}

/-! ### What is left alone -/

/-- From `start` to `now` there were the `events`, and the programs of `kept` have their
entries and lines from before. -/
structure Frame (kept : ProgramId → Prop) (start : RunState W) (events : List RunEvent)
    (now : RunState W) : Prop where
  journal : now.journal = start.journal ++ events
  made : ∀ id, start.Made id → now.Made id
  numbered : now.Numbered
  entries : ∀ id, kept id → now.lineage.find? id = start.lineage.find? id
  trail : ∀ (trail : Trail) (id : ProgramId), kept id →
    events.foldl RunEvent.extend trail id = trail id
  once : (begun events).Nodup

theorem Frame.trans {kept kept' : ProgramId → Prop} {a b c : RunState W}
    {xs ys : List RunEvent} (first : Frame kept a xs b) (last : Frame kept' b ys c)
    (hkept : ∀ id, kept id → kept' id) (hseparate : ∀ i ∈ begun xs, i ∉ begun ys) :
    Frame kept a (xs ++ ys) c where
  journal := by rw [last.journal, first.journal, List.append_assoc]
  made id h := last.made id (first.made id h)
  numbered := last.numbered
  entries id h := (last.entries id (hkept id h)).trans (first.entries id h)
  trail trail id h := by
    rw [List.foldl_append, last.trail _ id (hkept id h)]
    exact first.trail trail id h
  once := by
    rw [begun_append]
    exact List.nodup_append'.mpr ⟨first.once, last.once, hseparate⟩

/-- What happens inside an invocation: it acts itself, or programs that it derived go
through the other transforms. -/
structure Within (invocation : Invocation) (start : RunState W) (events : List RunEvent)
    (now : RunState W) : Prop extends Frame start.Made start events now where
  inner : ∀ e ∈ events,
    (e.invocation = invocation ∧ e.beginning? = none ∧ e.ending? = none) ∨
    (¬ start.Made e.invocation.input.id ∧ now.Made e.invocation.input.id)

/-- What happens while `program` is handed from transform to transform: these are not
among those that it has been through, and all other invocations are on new programs. -/
structure Stretch (program : Program) (start : RunState W) (events : List RunEvent)
    (final : RunState W) : Prop
    extends Frame (fun id => start.Made id ∧ id ≠ program.id) start events final where
  touched : ∀ e ∈ events,
    (e.invocation.input.id = program.id ∧
      e.invocation.identity ∉ start.lineage.applied program.id) ∨
    ¬ start.Made e.invocation.input.id
  inputs : ∀ e ∈ events, final.Made e.invocation.input.id

/-- Where a stretch arrives: `output` has been through `line` since it was `program`. -/
structure Arrival (program : Program) (start : RunState W) (events : List RunEvent)
    (final : RunState W) (output : Program) (line : List Invocation) : Prop where
  same_or_new : output.id = program.id ∨ ¬ start.Made output.id
  made : final.Made output.id
  trail : ∀ trail : Trail,
    events.foldl RunEvent.extend trail output.id = trail program.id ++ line
  applied : ∀ i, i ∈ final.lineage.applied output.id ↔
    i ∈ start.lineage.applied program.id ∨ i ∈ line.map Invocation.identity
  diagnostics : final.lineage.diagnostics output.id =
    start.lineage.diagnostics program.id ++ recorded events line
  /-- Whatever was invoked on the output counts as applied to it. -/
  settled : ∀ e ∈ events, e.invocation.input.id = output.id →
    e.invocation.identity ∈ final.lineage.applied output.id
  acted : ∀ i ∈ line, ∃ e ∈ events, e.invocation = i

/-! ### Inside an invocation -/

namespace Within

variable {invocation : Invocation} {start mid now : RunState W} {events later : List RunEvent}

theorem refl (h : start.Numbered) : Within invocation start [] start where
  journal := (List.append_nil _).symm
  made _ h := h
  numbered := h
  entries _ _ := rfl
  trail _ _ _ := rfl
  once := List.nodup_nil
  inner _ he := absurd he (List.not_mem_nil)

/-- Acts of the invocation's own that change no lineage. -/
theorem own (hown : ∀ e ∈ events,
      e.invocation = invocation ∧ e.beginning? = none ∧ e.ending? = none)
    (htrail : ∀ trail, events.foldl RunEvent.extend trail = trail) (hnum : start.Numbered)
    (hjournal : now.journal = start.journal ++ events) (hlineage : now.lineage = start.lineage)
    (hnext : start.nextId.number ≤ now.nextId.number) : Within invocation start events now where
  journal := hjournal
  made _ h := Nat.lt_of_lt_of_le h hnext
  numbered id h := by
    rw [hlineage]
    exact hnum id fun hmade => h (Nat.lt_of_lt_of_le hmade hnext)
  entries id _ := by rw [hlineage]
  trail trail id _ := by rw [htrail]
  once := by
    have hnone : begun events = [] := List.filterMap_eq_nil_iff.mpr fun e he => (hown e he).2.1
    rw [hnone]
    exact List.nodup_nil
  inner e he := .inl (hown e he)

/-- Whatever ends inside an invocation is on a new program, since the invocation itself is
still running. -/
theorem of_ending {e : RunEvent} {i : Invocation} (h : Within invocation start events now)
    (he : e ∈ events) (hend : e.ending? = some i) :
    ¬ start.Made i.input.id ∧ now.Made i.input.id := by
  rcases h.inner e he with ⟨-, -, hnone⟩ | hnew
  · exact absurd (hend.symm.trans hnone) (Option.some_ne_none i)
  · rwa [RunEvent.invocation_of_ending? hend] at hnew

/-- Whatever begins inside an invocation is on a new program. -/
theorem of_begun {i : Invocation} (h : Within invocation start events now)
    (hi : i ∈ begun events) : ¬ start.Made i.input.id ∧ now.Made i.input.id := by
  rcases h.inner _ (mem_begun.mp hi) with ⟨-, hnone, -⟩ | hnew
  · exact absurd hnone (Option.some_ne_none i)
  · exact hnew

theorem trans (first : Within invocation start events mid)
    (last : Within invocation mid later now) :
    Within invocation start (events ++ later) now where
  toFrame := by
    refine first.toFrame.trans last.toFrame first.made fun i hi hi' => ?_
    -- what began in the first part has a program that the last part cannot have made
    exact (last.of_begun hi').1 (first.of_begun hi).2
  inner e he := by
    rcases List.mem_append.mp he with he | he
    · exact (first.inner e he).imp_right fun h => ⟨h.1, last.made _ h.2⟩
    · exact (last.inner e he).imp_right fun h => ⟨fun hm => h.1 (first.made _ hm), h.2⟩

end Within

theorem RunState.Numbered.derive {state : RunState W} (h : state.Numbered)
    (invocation : Invocation) (roots : List String) :
    (state.derive invocation roots).2.Numbered := by
  intro id hid
  rw [RunState.made_derive, not_or] at hid
  rw [RunState.derive_lineage, Lineage.find?_inherit_of_ne hid.2]
  exact h id hid.1

theorem RunState.Numbered.settle {state : RunState W} (h : state.Numbered)
    (invocation : Invocation) {output : Program} (hmade : state.Made output.id)
    (reports : List Diagnostic) : (state.settle invocation output reports).Numbered := by
  intro id hid
  have hne : id ≠ output.id := fun heq => hid (heq ▸ hmade)
  rw [RunState.settle_lineage, Lineage.find?_reportAll_of_ne hne,
    Lineage.find?_inherit_of_ne hne]
  exact h id hid

/-! ### From transform to transform -/

section Chain

variable {program middle output : Program} {start mid final : RunState W}
variable {events later : List RunEvent} {line line' : List Invocation}

theorem Stretch.refl (program : Program) (h : start.Numbered) :
    Stretch program start [] start where
  journal := (List.append_nil _).symm
  made _ h := h
  numbered := h
  entries _ _ := rfl
  trail _ _ _ := rfl
  once := List.nodup_nil
  touched _ he := absurd he (List.not_mem_nil)
  inputs _ he := absurd he (List.not_mem_nil)

theorem Arrival.refl (h : start.Made program.id) : Arrival program start [] start program [] where
  same_or_new := .inl rfl
  made := h
  trail _ := (List.append_nil _).symm
  applied _ := (or_iff_left (List.not_mem_nil)).symm
  diagnostics := (List.append_nil _).symm
  settled _ he := absurd he (List.not_mem_nil)
  acted _ hi := absurd hi (List.not_mem_nil)

/-- **No invocation is in two stretches.** What is invoked on the program in between has
not been invoked on it before, and other programs are of one stretch alone. -/
theorem Arrival.separate (first : Arrival program start events mid middle line)
    (before : Stretch program start events mid) (after : Stretch middle mid later final) :
    ∀ e ∈ events, ∀ e' ∈ later, e.invocation ≠ e'.invocation := by
  intro e he e' he' heq
  rcases after.touched e' he' with ⟨hinput, hnew⟩ | hnew
  · -- on the program in between, what the first stretch invoked counts as applied
    refine hnew ?_
    rw [← heq] at hinput ⊢
    exact first.settled e he hinput
  · -- on any other program, that was made before the second stretch
    rw [← heq] at hnew
    exact hnew (before.inputs e he)

theorem Stretch.trans (before : Stretch program start events mid)
    (first : Arrival program start events mid middle line)
    (after : Stretch middle mid later final) :
    Stretch program start (events ++ later) final where
  toFrame := by
    refine before.toFrame.trans after.toFrame (fun id hid => ⟨before.made id hid.1, ?_⟩) ?_
    · -- the program in between is the first one or a new one, so nobody who is left alone
      rintro rfl
      exact first.same_or_new.elim hid.2 fun hnew => hnew hid.1
    · intro i hi hi'
      exact first.separate before after _ (mem_begun.mp hi) _ (mem_begun.mp hi') rfl
  touched e he := by
    rcases List.mem_append.mp he with he | he
    · exact before.touched e he
    · rcases after.touched e he with ⟨hinput, hnew⟩ | hnew
      · -- lines only grow, so what is new to the one in between was new to the first
        rw [hinput]
        exact first.same_or_new.imp_left fun hsame =>
          ⟨hsame, fun happlied => hnew ((first.applied _).mpr (.inl happlied))⟩
      · exact .inr fun hmade => hnew (before.made _ hmade)
  inputs e he := by
    rcases List.mem_append.mp he with he | he
    · exact after.made _ (before.inputs e he)
    · exact after.inputs e he

/-- **Lines are put together.** What is recorded along the second part is recorded after
what is recorded along the first. -/
theorem Arrival.trans (first : Arrival program start events mid middle line)
    (last : Arrival middle mid later final output line')
    (before : Stretch program start events mid) (after : Stretch middle mid later final) :
    Arrival program start (events ++ later) final output (line ++ line') where
  same_or_new := by
    rcases last.same_or_new with hsame | hnew
    · rw [hsame]
      exact first.same_or_new
    · exact .inr fun hmade => hnew (before.made _ hmade)
  made := last.made
  trail trail := by
    rw [List.foldl_append, last.trail, first.trail, List.append_assoc]
  applied i := by
    rw [last.applied, first.applied, List.map_append, List.mem_append, or_assoc]
  diagnostics := by
    -- the two parts of the line have their events on different sides
    have hseparate := first.separate before after
    rw [last.diagnostics, first.diagnostics, List.append_assoc, recorded_append]
    · rintro i hi e he rfl
      obtain ⟨e', he', heq⟩ := first.acted _ hi
      exact hseparate e' he' e he heq
    · rintro i hi e he rfl
      obtain ⟨e', he', heq⟩ := last.acted _ hi
      exact hseparate e he e' he' heq.symm
  settled e he hinput := by
    rcases List.mem_append.mp he with he | he
    · rcases last.same_or_new with hsame | hnew
      · exact (last.applied _).mpr (.inl (first.settled e he (hinput.trans hsame)))
      · exact absurd (hinput ▸ before.inputs e he) hnew
    · exact last.settled e he hinput
  acted i hi := by
    rcases List.mem_append.mp hi with hi | hi
    · exact (first.acted i hi).imp fun _ h => ⟨List.mem_append_left _ h.1, h.2⟩
    · exact (last.acted i hi).imp fun _ h => ⟨List.mem_append_right _ h.1, h.2⟩

end Chain

/-! ### What an invocation knows -/

section Knowing

variable {invocation : Invocation} {start mid now : RunState W}
variable {events later : List RunEvent} {program : Program} {line : List Invocation}

/-- Whoever of a line is not the running invocation itself has a program that was made
while it ran. -/
theorem Arrival.acted_within
    (h : Arrival invocation.input start events mid program line)
    (before : Within invocation start events mid) :
    ∀ i ∈ line, i = invocation ∨ mid.Made i.input.id := by
  intro i hi
  obtain ⟨e, he, rfl⟩ := h.acted i hi
  exact (before.inner e he).imp And.left And.right

/-- What was derived is left alone by whatever else its invocation does. -/
theorem Arrival.within (h : Arrival invocation.input start events mid program line)
    (hinput : start.Made invocation.input.id) (hnew : ¬ start.Made program.id)
    (before : Within invocation start events mid) (after : Within invocation mid later now) :
    Arrival invocation.input start (events ++ later) now program line where
  same_or_new := .inr hnew
  made := after.made _ h.made
  trail trail := by
    rw [List.foldl_append, after.trail _ _ h.made]
    exact h.trail trail
  applied i := by
    rw [Lineage.applied_congr (after.entries _ h.made)]
    exact h.applied i
  diagnostics := by
    rw [Lineage.diagnostics_congr (after.entries _ h.made), h.diagnostics,
      recorded_append_of_done]
    · -- nobody of the line returns later: the one that is running does not end here
      intro i hi output he
      obtain ⟨hfresh, -⟩ := after.of_ending he rfl
      rcases h.acted_within before i hi with rfl | hmade
      · exact hfresh (before.made _ hinput)
      · exact hfresh hmade
    · intro i hi e he heq
      -- the invocation itself is still running, so it is not among those that returned
      obtain ⟨-, output, hret⟩ := mem_returnedAmong.mp hi
      obtain ⟨hold, hmade⟩ := before.of_ending hret rfl
      rcases after.inner e he with ⟨hown, -, -⟩ | ⟨hfresh, -⟩
      · exact hold ((heq.symm.trans hown : i = invocation) ▸ hinput)
      · exact hfresh (heq ▸ hmade)
  settled e he hid := by
    rw [Lineage.applied_congr (after.entries _ h.made)]
    rcases List.mem_append.mp he with he | he
    · exact h.settled e he hid
    · -- what happens later is on the input, which was made before, or on newer programs
      rcases after.inner e he with ⟨rfl, -, -⟩ | ⟨hfresh, -⟩
      · exact absurd (hid ▸ hinput) hnew
      · exact absurd (hid ▸ h.made) hfresh
  acted i hi := (h.acted i hi).imp fun _ h => ⟨List.mem_append_left _ h.1, h.2⟩

/-! A derived program has a number of its own, and so has everything that comes of it. -/

section Deriving

variable {roots : List String}

theorem Stretch.not_made
    (h : Stretch (mid.derive invocation roots).1 (mid.derive invocation roots).2 later now) :
    ∀ e ∈ later, ¬ mid.Made e.invocation.input.id := by
  intro e he hmade
  rcases h.touched e he with ⟨heq, -⟩ | hnew
  · exact mid.not_made_nextId (heq ▸ hmade : mid.Made (mid.derive invocation roots).1.id)
  · exact hnew (RunState.made_derive.mpr (.inl hmade))

theorem Arrival.not_made
    (h : Arrival (mid.derive invocation roots).1 (mid.derive invocation roots).2 later now
      program line) : ¬ mid.Made program.id := by
  intro hmade
  rcases h.same_or_new with heq | hnew
  · exact mid.not_made_nextId (heq ▸ hmade : mid.Made (mid.derive invocation roots).1.id)
  · exact hnew (RunState.made_derive.mpr (.inl hmade))

/-- A derivation, with all that the derived program goes through, is inside its
invocation. -/
theorem Within.derive
    (h : Stretch (mid.derive invocation roots).1 (mid.derive invocation roots).2 later now) :
    Within invocation mid (.derived invocation (mid.derive invocation roots).1 :: later) now := by
  -- whoever was made before is not the derived program, which the stretch is about
  have hkept : ∀ id, mid.Made id → (mid.derive invocation roots).2.Made id ∧
      id ≠ (mid.derive invocation roots).1.id := by
    refine fun id hid => ⟨RunState.made_derive.mpr (.inl hid), ?_⟩
    rintro rfl
    exact mid.not_made_nextId hid
  constructor
  · constructor
    · rw [h.journal, RunState.derive_journal, List.append_assoc]
      rfl
    · exact fun id hid => h.made id (hkept id hid).1
    · exact h.numbered
    · intro id hid
      rw [h.entries id (hkept id hid), RunState.derive_lineage]
      exact Lineage.find?_inherit_of_ne (hkept id hid).2
    · intro trail id hid
      rw [List.foldl_cons, h.trail _ id (hkept id hid)]
      exact Function.update_of_ne (hkept id hid).2 _ _
    · rw [begun_cons_of_none rfl]
      exact h.once
  · intro e he
    rcases List.mem_cons.mp he with rfl | he
    · exact .inl ⟨rfl, rfl, rfl⟩
    · exact .inr ⟨h.not_made e he, h.inputs e he⟩

/-- **A derived program is in line with its invocation.** What came back from the other
transforms has been through the running invocation and then through theirs. -/
theorem Arrival.derive (hinput : start.Made invocation.input.id) (hnum : mid.Numbered)
    (before : Within invocation start events mid)
    (stretch : Stretch (mid.derive invocation roots).1 (mid.derive invocation roots).2 later now)
    (h : Arrival (mid.derive invocation roots).1 (mid.derive invocation roots).2 later now
      program line) :
    Arrival invocation.input start
      (events ++ [.derived invocation (mid.derive invocation roots).1] ++ later) now program
      (invocation :: line) := by
  have hmid : mid.Made invocation.input.id := before.made _ hinput
  have hentry : mid.lineage.find? mid.nextId = none := hnum _ mid.not_made_nextId
  -- up to the derivation all programs that anything was invoked on were made before it
  have hbefore : ∀ e ∈ events ++ [.derived invocation (mid.derive invocation roots).1],
      mid.Made e.invocation.input.id := by
    intro e he
    rcases List.mem_append.mp he with he | he
    · rcases before.inner e he with ⟨hown, -, -⟩ | ⟨-, hmade⟩
      · exact hown ▸ hmid
      · exact hmade
    · obtain rfl := List.mem_singleton.mp he
      exact hmid
  constructor
  · exact .inr fun hmade => h.not_made (before.made _ hmade)
  · exact h.made
  · intro trail
    rw [List.foldl_append, List.foldl_append, h.trail, List.foldl_cons, List.foldl_nil,
      RunEvent.extend_derived_self, before.trail _ _ hinput, List.append_assoc,
      List.singleton_append]
  · intro i
    -- the derived program had no entry, so it has what it inherits
    have hnone : i ∉ mid.lineage.applied mid.nextId := by
      rw [Lineage.applied, hentry]
      exact List.not_mem_nil
    rw [h.applied, RunState.derive_lineage, Lineage.mem_applied_inherit, RunState.derive_id,
      Lineage.applied_congr (before.entries _ hinput), List.map_cons, List.mem_singleton,
      List.mem_cons, or_iff_right hnone, and_iff_right rfl, or_assoc]
  · -- having no entry, it is handed down the reports of the input too
    have hstart : (mid.derive invocation roots).2.lineage.diagnostics mid.nextId =
        start.lineage.diagnostics invocation.input.id := by
      rw [RunState.derive_lineage, ← RunState.derive_id mid invocation roots,
        Lineage.diagnostics_inherit_of_new hentry, Lineage.diagnostics_congr]
      · exact before.entries _ hinput
      · intro heq
        exact mid.not_made_nextId (heq ▸ hmid : mid.Made (mid.derive invocation roots).1.id)
    -- the invocation is still running, so nothing of its own is recorded yet
    have hown : recorded (events ++ [.derived invocation (mid.derive invocation roots).1])
        [invocation] = [] := by
      refine recorded_eq_nil fun i hi output he => ?_
      obtain rfl := List.mem_singleton.mp hi
      rcases List.mem_append.mp he with he | he
      · exact (before.of_ending he rfl).1 hinput
      · exact RunEvent.noConfusion (List.mem_singleton.mp he)
    have hsplit : recorded (events ++ [.derived invocation (mid.derive invocation roots).1] ++
        later) ([invocation] ++ line) = [] ++ recorded later line := by
      rw [recorded_append, hown]
      · rintro i hi e he rfl
        exact stretch.not_made e he (List.mem_singleton.mp hi ▸ hmid)
      · rintro i hi e he rfl
        obtain ⟨e', he', heq⟩ := h.acted _ hi
        exact stretch.not_made e' he' (heq ▸ hbefore e he)
    rw [h.diagnostics, RunState.derive_id, hstart]
    exact congrArg _ hsplit.symm
  · intro e he hid
    rcases List.mem_append.mp he with he | he
    · exact absurd (hid ▸ hbefore e he) h.not_made
    · exact h.settled e he hid
  · intro i hi
    rcases List.mem_cons.mp hi with rfl | hi
    · exact ⟨_, List.mem_append_left _ (List.mem_append_right _ (List.mem_singleton_self _)), rfl⟩
    · exact (h.acted i hi).imp fun _ h => ⟨List.mem_append_right _ h.1, h.2⟩

end Deriving

end Knowing

end TransformerEngine
