import TransformerEngine.Proofs.Plugin.Flattening

/-!
# Members that are `null`

A member of an entry that is `null` should be as good as a missing one: taking it out changes
nothing, except that the entry is kept with what it configures. So it is for the members that
belong to a module (`Slot.lenient`), since an entry is the same with and without them
(`readAlike_clear`, `ReadAlike.descriptors`).

The places of groups are stricter (`Slot.strict`). A `null` there is refused, while a missing
member is passed over, so what is wrong with the entry is not what may be wrong with it without
the member (`malformed_null`). Only something that counts before it hides the difference
(`configured_eq_iff_of_malformed`).

`null_reads_as_absent_iff` puts the two together.
-/

namespace TransformerEngine

/-- The descriptor without the entry that configured it. -/
def PluginDescriptor.bare (d : PluginDescriptor) : PluginDescriptor := d.withConfig (.object [])

namespace PluginEntry

/-! ### Places in an entry -/

/-- The members without those under `key`. -/
def without (key : String) (entry : Members) : Members := entry.filter fun member => member.1 ≠ key

/-- A place in which a member of an entry may stand: among its own members, or in its groups. -/
inductive Slot where
  | own (key : String)
  | grouped (key : String)
deriving DecidableEq

namespace Slot

/-- What stands in a place. -/
def value? (entry : Members) : Slot → Option Json
  | own key => Entries.find? key entry
  | grouped key => (Entries.find? groupsKey entry).bind (·.member? key)

/-- The entry with nothing in a place. -/
def clear (entry : Members) : Slot → Members
  | own key => without key entry
  | grouped key =>
    match Entries.find? groupsKey entry with
    | some (.object groups) =>
      Entries.insert groupsKey (.object (without key groups)) entry
    | _ => entry

/-- The keys of the members that belong to a module. -/
def moduleKeys : List String :=
  [moduleKey, "import", "type", "after", "afterDeclarations", "beforeEmit", "transformProgram"]

/-- The places of the members that belong to a module. -/
def lenient : List Slot := moduleKeys.map own

/-- The places of the groups of the older form. -/
def strict : List Slot := [own groupsKey, grouped Phase.before.name, grouped Phase.after.name]

end Slot

section Members

variable {entry groups : Members} {key : String} {value : Json}

/-- Looking up a key where the members under a key were taken out. -/
theorem find?_without (taken key : String) (entry : Members) :
    Entries.find? key (without taken entry) =
      if taken = key then none else Entries.find? key entry := by
  induction entry with
  | nil => exact (ite_self _).symm
  | cons member rest ih =>
    obtain ⟨k, v⟩ := member
    unfold without at ih ⊢
    by_cases hk : k = taken
    · -- the member goes, and would not have been found under another key
      rw [List.filter_cons_of_neg (by simpa using hk), ih, Entries.find?]
      by_cases htaken : taken = key
      · rw [if_pos htaken, if_pos htaken]
      · rw [if_neg htaken, if_neg htaken, if_neg (hk ▸ htaken)]
    · rw [List.filter_cons_of_pos (by simpa using hk), Entries.find?, Entries.find?, ih]
      by_cases hkey : k = key
      · rw [if_pos hkey, if_pos hkey, if_neg (hkey ▸ Ne.symm hk)]
      · rw [if_neg hkey, if_neg hkey]

theorem find?_clear_own (taken key : String) (entry : Members) :
    Entries.find? key ((Slot.own taken).clear entry) =
      if taken = key then none else Entries.find? key entry := find?_without taken key entry

/-- A member that stands in the place of a group stands in an object. -/
theorem groups_of_value? (h : (Slot.grouped key).value? entry = some value) :
    ∃ groups, Entries.find? groupsKey entry = some (.object groups) ∧
      Entries.find? key groups = some value := by
  obtain ⟨found, hfound, hmember⟩ := Option.bind_eq_some_iff.mp h
  cases found with
  | object groups => exact ⟨groups, hfound, hmember⟩
  | _ => exact nomatch hmember

theorem find?_clear_grouped (h : Entries.find? groupsKey entry = some (.object groups))
    (key : String) :
    Entries.find? groupsKey ((Slot.grouped key).clear entry) =
      some (.object (without key groups)) := by
  unfold Slot.clear
  rw [h, Entries.find?_insert, if_pos rfl]

end Members

/-! ### Entries that are read alike -/

/-- The entries have the same groups, and the same members that belong to a module, where `null`
is as good as nothing. -/
structure ReadAlike (entry other : Members) : Prop where
  groups : Entries.find? groupsKey other = Entries.find? groupsKey entry
  given : ∀ key ∈ Slot.moduleKeys, given? other key = given? entry key

namespace ReadAlike

variable {base : Option String} {entry other : Members} {ds : List PluginDescriptor}
variable {reason : String}

theorem symm (h : ReadAlike entry other) : ReadAlike other entry where
  groups := h.groups.symm
  given key hkey := (h.given key hkey).symm

theorem older (h : ReadAlike entry other) (holder : Older base entry ds) :
    ∃ ds', Older base other ds' ∧ ds'.map PluginDescriptor.bare = ds.map .bare := by
  cases holder with
  | absent hnone => exact ⟨[], .absent (h.groups.trans hnone), rfl⟩
  | groups hfound hbefore hafter =>
    refine ⟨_, .groups (h.groups.trans hfound) hbefore hafter, ?_⟩
    rw [List.map_append, List.map_append, List.map_map, List.map_map, List.map_map, List.map_map]
    rfl

theorem olderFault (h : ReadAlike entry other) (hfault : OlderFault entry reason) :
    OlderFault other reason := by
  cases hfault with
  | notGroups hfound hvalue => exact .notGroups (h.groups.trans hfound) hvalue
  | before hfound hbefore => exact .before (h.groups.trans hfound) hbefore
  | after hfound hbefore hafter => exact .after (h.groups.trans hfound) hbefore hafter

theorem module (h : ReadAlike entry other) : given? other moduleKey = given? entry moduleKey :=
  h.given moduleKey (by decide)

theorem sets (h : ReadAlike entry other) {key : String} (hkey : key ∈ Slot.moduleKeys) :
    Sets other key ↔ Sets entry key := by
  unfold Sets
  rw [h.given key hkey]

theorem imports (h : ReadAlike entry other) {name : Option String} (himport : Imports entry name) :
    Imports other name := by
  have hsame := h.given "import" (by decide)
  cases himport with
  | default hnone => exact .default (hsame.trans hnone)
  | named hname => exact .named (hsame.trans hname)

theorem declares (h : ReadAlike entry other) {kind : PluginKind} (hkind : Declares entry kind) :
    Declares other kind := by
  have hsame := h.given "type" (by decide)
  cases hkind with
  | default hnone => exact .default (hsame.trans hnone)
  | named hname => exact .named (hsame.trans hname)

theorem marks (h : ReadAlike entry other) : Marks other ↔ Marks entry :=
  or_congr (h.sets (by decide)) (h.sets (by decide))

theorem runsIn (h : ReadAlike entry other) {p : Phase} (hphase : RunsIn entry p) :
    RunsIn other p := by
  have hdeclarations : Sets other "afterDeclarations" ↔ Sets entry "afterDeclarations" :=
    h.sets (by decide)
  have hafter : Sets other "after" ↔ Sets entry "after" := h.sets (by decide)
  cases hphase with
  | afterDeclarations hset => exact .afterDeclarations (hdeclarations.mpr hset)
  | after hnot hset => exact .after (hnot ∘ hdeclarations.mp) (hafter.mpr hset)
  | before hnot hunset => exact .before (hnot ∘ hdeclarations.mp) (hunset ∘ hafter.mp)

theorem newer (h : ReadAlike entry other) (hnewer : Newer base entry ds) :
    ∃ ds', Newer base other ds' ∧ ds'.map PluginDescriptor.bare = ds.map .bare := by
  cases hnewer with
  | absent hnone => exact ⟨[], .absent (h.module.trans hnone), rfl⟩
  | @named specifier declared d hmodule hspecifier himport hdeclared hmarked hunmarked hphase hemit
      hconfig =>
    -- the same plugin, kept with the other entry
    refine ⟨[d.withConfig (.object other)], ?_, rfl⟩
    refine .named (h.module.trans hmodule) hspecifier (h.imports himport) (h.declares hdeclared)
      ?_ ?_ (h.runsIn hphase) hemit rfl
    · intro hmarks
      exact hmarked (h.marks.mp hmarks)
    · intro hmarks
      exact hunmarked fun hmarks' => hmarks (h.marks.mpr hmarks')

theorem newerFault (h : ReadAlike entry other) (hfault : NewerFault entry reason) :
    NewerFault other reason := by
  cases hfault with
  | notPath hmodule hvalue => exact .notPath (h.module.trans hmodule) hvalue
  | notImport hmodule himport hvalue =>
    exact .notImport (h.module.trans hmodule) ((h.given _ (by decide)).trans himport) hvalue
  | unknownKind hmodule himport htype hname =>
    exact .unknownKind (h.module.trans hmodule) (h.imports himport)
      ((h.given _ (by decide)).trans htype) hname
  | notKind hmodule himport htype hvalue =>
    exact .notKind (h.module.trans hmodule) (h.imports himport)
      ((h.given _ (by decide)).trans htype) hvalue

/-- What is wrong with one of the entries is wrong with the other. -/
theorem malformed (h : ReadAlike entry other) (hmalformed : Malformed (.object entry) reason) :
    Malformed (.object other) reason := by
  cases hmalformed with
  | older hfault => exact .older (h.olderFault hfault)
  | newer hsound hfault =>
    exact .newer (fun r hr => hsound r (h.symm.olderFault hr)) (h.newerFault hfault)

/-- **Read alike.** The entries come to the same, but for the entries themselves. -/
theorem descriptors (h : ReadAlike entry other) (base : Option String) :
    (descriptors base (.object other)).map (List.map PluginDescriptor.bare) =
      (descriptors base (.object entry)).map (List.map PluginDescriptor.bare) := by
  have hsettled := settles_descriptors base (.object entry)
  have hother := settles_descriptors base (.object other)
  cases hread : PluginEntry.descriptors base (.object entry) with
  | error reason =>
    rw [(hother.error reason).mpr (h.malformed ((hsettled.error reason).mp hread))]
  | ok ds =>
    have hconfigures := (hsettled.ok ds).mp hread
    cases hconfigures with
    | other hnone => exact nomatch hnone
    | object holder hnewer =>
      obtain ⟨older', holder', hsame⟩ := h.older holder
      obtain ⟨newer', hnewer', hsame'⟩ := h.newer hnewer
      rw [(hother.ok _).mpr (.object holder' hnewer')]
      show Except.ok ((older' ++ newer').map PluginDescriptor.bare) = Except.ok _
      rw [List.map_append, hsame, hsame', List.map_append]

end ReadAlike

/-- What a module's member says is the same with and without a `null`. -/
theorem readAlike_clear {entry : Members} {slot : Slot} (hslot : slot ∈ Slot.lenient)
    (hnull : slot.value? entry = some .null) : ReadAlike entry (slot.clear entry) := by
  obtain ⟨taken, htaken, rfl⟩ := List.mem_map.mp hslot
  have hgroups : taken ≠ groupsKey := by
    rintro rfl
    exact absurd htaken (by decide)
  refine ⟨?_, ?_⟩
  · rw [find?_clear_own, if_neg hgroups]
  · intro key _
    -- only the member that was taken out could be read in another way
    by_cases hkey : taken = key
    · subst hkey
      have hgone : Entries.find? taken ((Slot.own taken).clear entry) = none := by
        rw [find?_clear_own, if_pos rfl]
      rw [given?_of_none hgone, given?_of_null hnull]
    · unfold given?
      rw [find?_clear_own, if_neg hkey]

/-! ### Groups that are `null` -/

section Strict

variable {entry groups : Members} {phase : Phase} {reason : String}

theorem malformed_object_iff : Malformed (.object entry) reason ↔
    OlderFault entry reason ∨ (∀ r, ¬OlderFault entry r) ∧ NewerFault entry reason := by
  constructor
  · intro h
    cases h with
    | older hfault => exact .inl hfault
    | newer hsound hfault => exact .inr ⟨hsound, hfault⟩
  · rintro (hfault | ⟨hsound, hfault⟩)
    · exact .older hfault
    · exact .newer hsound hfault

/-- A group is said to be no array, or to have an item that is no path. -/
theorem GroupFault.reason_eq (h : GroupFault groups phase reason) :
    reason = s!"`customTransformers.{phase.name}` must be an array of module paths" ∨
      reason = s!"`customTransformers.{phase.name}` entries must be strings" := by
  cases h with
  | notList => exact .inl rfl
  | notPath => exact .inr rfl

/-- A group that is at fault is called by its name, so that another is not said to be. -/
theorem GroupFault.not_after (h : GroupFault groups .before reason) {others : Members} :
    ¬GroupFault others .after reason := by
  intro h'
  rcases h.reason_eq with rfl | rfl
  · rcases h'.reason_eq with heq | heq
    · exact absurd heq (by decide)
    · exact absurd heq (by decide)
  · rcases h'.reason_eq with heq | heq
    · exact absurd heq (by decide)
    · exact absurd heq (by decide)

/-- What is wrong with a named module is never said of the groups. -/
theorem NewerFault.not_of_groups (h : NewerFault entry reason) :
    Text.hasStart reason "`customTransformers" = false := by
  cases h with
  | notPath => decide
  | notImport => decide
  | @unknownKind _ name _ _ _ _ _ =>
    show Text.hasStart ("unknown transformer type '" ++ name ++ "'") _ = false
    unfold Text.hasStart
    rw [String.toList_append, String.toList_append]
    rfl
  | notKind => decide

/-- A reason that is said of the groups is that of a fault of the older form. -/
theorem malformed_of_groups_iff (h : Text.hasStart reason "`customTransformers" = true) :
    Malformed (.object entry) reason ↔ OlderFault entry reason := by
  rw [malformed_object_iff]
  refine or_iff_left ?_
  rintro ⟨-, hfault⟩
  exact Bool.false_ne_true (hfault.not_of_groups.symm.trans h)

/-- The group that runs before the other is at fault. -/
def FaultBefore (entry : Members) : Prop :=
  ∃ groups reason, Entries.find? groupsKey entry = some (.object groups) ∧
    GroupFault groups .before reason

/-- A group either lists paths or has a fault. -/
theorem exists_lists_iff : (∃ paths, Lists groups phase paths) ↔
    ∀ reason, ¬GroupFault groups phase reason := by
  rw [← (settles_group none groups groups phase).exists_right_iff]
  constructor
  · rintro ⟨paths, hpaths⟩
    exact ⟨_, paths, hpaths, rfl⟩
  · rintro ⟨_, paths, hpaths, -⟩
    exact ⟨paths, hpaths⟩

/-- Without the member that should hold the groups there is no older form that could be wrong. -/
theorem malformed_null_groups (hnull : (Slot.own groupsKey).value? entry = some .null) :
    ∃ reason, Malformed (.object entry) reason ∧
      ¬Malformed (.object ((Slot.own groupsKey).clear entry)) reason := by
  refine ⟨_, .older (.notGroups hnull rfl), ?_⟩
  rw [malformed_of_groups_iff (by decide)]
  intro hfault
  have hgone : Entries.find? groupsKey ((Slot.own groupsKey).clear entry) = none := by
    rw [find?_clear_own, if_pos rfl]
  exact hfault.found hgone

/-- Without the first group only the other could be at fault, and would be called by its name. -/
theorem malformed_null_before (hnull : (Slot.grouped Phase.before.name).value? entry = some .null) :
    ∃ reason, Malformed (.object entry) reason ∧
      ¬Malformed (.object ((Slot.grouped Phase.before.name).clear entry)) reason := by
  obtain ⟨groups, hgroups, hgroup⟩ := groups_of_value? hnull
  have hnotList : GroupFault groups .before _ := .notList hgroup rfl
  refine ⟨_, .older (.before hgroups hnotList), ?_⟩
  rw [malformed_of_groups_iff (by decide)]
  intro hfault
  rcases hfault.of_groups (find?_clear_grouped hgroups _) with hbefore | ⟨-, hafter⟩
  · refine hbefore.found ?_
    rw [find?_without, if_pos rfl]
  · exact hnotList.not_after hafter

/-- Without the other group the first may be at fault, and then it was at fault before. -/
theorem malformed_null_after (hnull : (Slot.grouped Phase.after.name).value? entry = some .null) :
    ∃ reason, Malformed (.object entry) reason ∧
      (Malformed (.object ((Slot.grouped Phase.after.name).clear entry)) reason ↔
        FaultBefore entry) := by
  obtain ⟨groups, hgroups, hgroup⟩ := groups_of_value? hnull
  have hcleared := find?_clear_grouped hgroups Phase.after.name
  have hsame : Entries.find? Phase.before.name (without Phase.after.name groups) =
      Entries.find? Phase.before.name groups := by
    rw [find?_without, if_neg (by decide)]
  by_cases hbefore : FaultBefore entry
  · -- the first group is at fault with and without the other
    obtain ⟨others, reason, hothers, hfault⟩ := hbefore
    obtain rfl := Json.object.inj (Option.some.inj (hgroups.symm.trans hothers))
    refine ⟨reason, .older (.before hgroups hfault), iff_of_true ?_ ⟨_, _, hgroups, hfault⟩⟩
    refine .older (.before hcleared ?_)
    cases hfault with
    | notList hfound hvalue => exact .notList (hsame.trans hfound) hvalue
    | notPath hfound hitem hvalue => exact .notPath (hsame.trans hfound) hitem hvalue
  · have hsound : ∀ r, ¬GroupFault groups .before r :=
      fun r hr => hbefore ⟨groups, r, hgroups, hr⟩
    obtain ⟨paths, hpaths⟩ := exists_lists_iff.mpr hsound
    have hnotList : GroupFault groups .after _ := .notList hgroup rfl
    refine ⟨_, .older (.after hgroups hpaths hnotList), iff_of_false ?_ hbefore⟩
    rw [malformed_of_groups_iff (by decide)]
    intro hfault
    rcases hfault.of_groups hcleared with hfirst | ⟨-, hafter⟩
    · exact hfirst.not_after hnotList
    · refine hafter.found ?_
      rw [find?_without, if_pos rfl]

/-- **A `null` in the place of groups is refused**, and not for the reason for which the entry
may be refused without it, unless the group that runs before the other is at fault in both. -/
theorem malformed_null {slot : Slot} (hslot : slot ∈ Slot.strict)
    (hnull : slot.value? entry = some .null) :
    ∃ reason, Malformed (.object entry) reason ∧
      (Malformed (.object (slot.clear entry)) reason ↔
        slot = .grouped Phase.after.name ∧ FaultBefore entry) := by
  have hcases : slot = .own groupsKey ∨ slot = .grouped Phase.before.name ∨
      slot = .grouped Phase.after.name := by
    simpa [Slot.strict] using hslot
  rcases hcases with rfl | rfl | rfl
  · obtain ⟨reason, hmalformed, hcleared⟩ := malformed_null_groups hnull
    exact ⟨reason, hmalformed, iff_of_false hcleared (fun h => nomatch h.1)⟩
  · obtain ⟨reason, hmalformed, hcleared⟩ := malformed_null_before hnull
    exact ⟨reason, hmalformed, iff_of_false hcleared (fun h => absurd h.1 (by decide))⟩
  · obtain ⟨reason, hmalformed, hcleared⟩ := malformed_null_after hnull
    exact ⟨reason, hmalformed, hcleared.trans (and_iff_right rfl).symm⟩

end Strict

end PluginEntry

open PluginEntry

/-! ### Arrays -/

variable {base : Option String} {before after entries : List Json} {entry other : Json}

/-- What an array configures, but for the entries that are kept with it. -/
def configured (base : Option String) (entries : List Json) :
    Except PluginError (List PluginDescriptor) :=
  (PluginDescriptor.ofEntries entries base).map (List.map .bare)

theorem configured_eq_error_iff {error : PluginError} :
    configured base entries = .error error ↔
      PluginDescriptor.ofEntries entries base = .error error := by
  unfold configured
  cases PluginDescriptor.ofEntries entries base with
  | error found => rfl
  | ok ds => exact iff_of_false (nomatch ·) (nomatch ·)

theorem configured_append (first second : List Json) :
    configured base (first ++ second) =
      configured base first >>= fun ds =>
        (configured base second).mapError (·.later first.length) >>= fun others =>
          .ok (ds ++ others) := by
  unfold configured
  rw [ofEntries_append]
  cases PluginDescriptor.ofEntries first base with
  | error error => rfl
  | ok ds =>
    cases PluginDescriptor.ofEntries second base with
    | error error => rfl
    | ok others =>
      show Except.ok ((ds ++ others).map PluginDescriptor.bare) = Except.ok _
      rw [List.map_append]

theorem configured_cons (entry : Json) (rest : List Json) :
    configured base (entry :: rest) =
      ((descriptors base entry).map (List.map .bare)).mapError (.malformedEntry 0) >>= fun own =>
        (configured base rest).mapError (·.later 1) >>= fun others => .ok (own ++ others) := by
  unfold configured PluginDescriptor.ofEntries
  rw [descriptorsFrom_cons, descriptorsFrom_later base 0 1 rest]
  cases descriptors base entry with
  | error reason => rfl
  | ok own =>
    cases descriptorsFrom base 0 rest with
    | error error => rfl
    | ok others =>
      show Except.ok ((own ++ others).map PluginDescriptor.bare) = Except.ok _
      rw [List.map_append]

/-- An entry may stand for another that comes to the same. -/
theorem configured_congr
    (h : (descriptors base other).map (List.map PluginDescriptor.bare) =
      (descriptors base entry).map (List.map PluginDescriptor.bare))
    (before after : List Json) :
    configured base (before ++ other :: after) = configured base (before ++ entry :: after) := by
  rw [configured_append, configured_append, configured_cons, configured_cons, h]

/-- An entry may stand for a malformed one only if the same is wrong with it, or if an entry in
front is malformed anyway. -/
theorem configured_eq_iff_of_malformed {reason : String} (h : Malformed entry reason) :
    configured base (before ++ other :: after) = configured base (before ++ entry :: after) ↔
      (∃ e ∈ before, ∃ r, Malformed e r) ∨ Malformed other reason := by
  by_cases hfront : ∃ e ∈ before, ∃ r, Malformed e r
  · -- the error is about the entries in front, and what is behind them is not read
    refine iff_of_true ?_ (.inl hfront)
    obtain ⟨e, he, r, hr⟩ := hfront
    rw [configured_append, configured_append]
    cases hread : PluginDescriptor.ofEntries before base with
    | ok ds => exact absurd hr (exists_ofEntries_iff.mp ⟨ds, hread⟩ e he r)
    | error error =>
      rw [configured_eq_error_iff.mpr hread]
      rfl
  · have hsound : ∀ e ∈ before, ∀ r, ¬Malformed e r :=
      fun e he r hr => hfront ⟨e, he, r, hr⟩
    have herror : configured base (before ++ entry :: after) =
        .error (.malformedEntry before.length reason) :=
      configured_eq_error_iff.mpr
        (ofEntries_eq_error_iff.mpr ⟨before, entry, after, reason, rfl, hsound, h, rfl⟩)
    rw [or_iff_right hfront, herror, configured_eq_error_iff, ofEntries_eq_error_iff]
    constructor
    · rintro ⟨before', entry', after', reason', hsplit, -, hmalformed, heq⟩
      -- the errors are about the same place
      obtain ⟨hlength, rfl⟩ := PluginError.malformedEntry.inj heq
      obtain ⟨-, hbehind⟩ := List.append_inj hsplit hlength
      obtain ⟨rfl, -⟩ := List.cons.inj hbehind
      exact hmalformed
    · intro hother
      exact ⟨before, other, after, reason, rfl, hsound, hother, rfl⟩

namespace Sample

def nullImport : Members := [("transform", .string "m"), ("import", .null)]

def nullGroups : Members := [("customTransformers", .null)]

end Sample

/-- **A `null` is as good as nothing for the members of a module only.** Taking a member that is
`null` out of an entry changes what the array comes to, but for the entries that are kept, if and
only if the member stands in the place of groups, and nothing that counts before it is wrong: no
entry in front, and not the group that runs before it. -/
theorem null_reads_as_absent_iff (base : Option String) (before after : List Json)
    {entry : Members} {slot : Slot} (hslot : slot ∈ Slot.lenient ++ Slot.strict)
    (hnull : slot.value? entry = some .null) :
    configured base (before ++ .object (slot.clear entry) :: after) =
        configured base (before ++ .object entry :: after) ↔
      slot ∈ Slot.lenient ∨ (∃ e ∈ before, ∃ reason, Malformed e reason) ∨
        slot = .grouped Phase.after.name ∧ FaultBefore entry := by
  rcases List.mem_append.mp hslot with hlenient | hstrict
  · refine iff_of_true ?_ (.inl hlenient)
    exact configured_congr ((readAlike_clear hlenient hnull).descriptors base) before after
  · have hnot : slot ∉ Slot.lenient := by
      have hdisjoint : ∀ s ∈ Slot.strict, s ∉ Slot.lenient := by decide
      exact hdisjoint slot hstrict
    obtain ⟨reason, hmalformed, hcleared⟩ := malformed_null hstrict hnull
    rw [configured_eq_iff_of_malformed hmalformed, hcleared, or_iff_right hnot]

/-- An import that is `null` is as good as none. Groups that are `null` are an error, and none
would have configured nothing. -/
theorem null_reads_as_absent_iff_sample :
    configured none [.object ((Slot.own "import").clear Sample.nullImport)] =
      configured none [.object Sample.nullImport] ∧
    configured none [.object Sample.nullGroups] =
      .error (.malformedEntry 0 "`customTransformers` must be an object") ∧
    configured none [.object ((Slot.own groupsKey).clear Sample.nullGroups)] = .ok [] ∧
    ¬configured none [.object ((Slot.own groupsKey).clear Sample.nullGroups)] =
      configured none [.object Sample.nullGroups] := by
  have himport : (Slot.own "import").value? Sample.nullImport = some .null := rfl
  have hgroups : (Slot.own groupsKey).value? Sample.nullGroups = some .null := rfl
  refine ⟨(null_reads_as_absent_iff none [] [] (by decide) himport).mpr (.inl (by decide)),
    rfl, rfl, ?_⟩
  intro hsame
  have hreason := (null_reads_as_absent_iff none [] [] (by decide) hgroups).mp hsame
  rcases hreason with hlenient | ⟨e, he, -⟩ | ⟨hslot, -⟩
  · exact absurd hlenient (by decide)
  · exact List.not_mem_nil he
  · exact Slot.noConfusion hslot

end TransformerEngine
