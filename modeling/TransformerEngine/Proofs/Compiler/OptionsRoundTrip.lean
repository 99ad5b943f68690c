import Mathlib.Data.List.Nodup
import TransformerEngine.Proofs.Compiler.Creation
import TransformerEngine.Proofs.Compiler.OptionsReading

/-!
# Options written and read again

Options are read from the members of an object one by one. What they come to depends on little
of the members (`ReadFrom`): a field on the one member under its key, and the table of the
other options on the members that are not known, in their order. `ReadFrom` is carried from
one member to the next (`ReadFrom.unknown`, `ReadFrom.known`), and it determines the options
(`ReadFrom.unique`), so that it says what is read (`ofMembers_eq_ok_iff`).

What is written has this form by itself (`readFrom_members`), as long as no key of the other
options is known. Options that were read have none (`ReadFrom.not_mem_other`), and so what is
written of them is read as the same options again (`options_round_trip`).
-/

namespace TransformerEngine

open PluginEntry (bind_eq_ok)
open CompilerOptions (accepts_of_set untouched_of_set exists_set)

/-! ### Tables written entry by entry -/

section Tables

variable {κ ν : Type} [DecidableEq κ] {key : κ} {value : ν}

theorem Table.ofList_concat (entries : List (κ × ν)) :
    Table.ofList (entries ++ [(key, value)]) = (Table.ofList entries).insert key value := by
  unfold Table.ofList
  rw [List.foldl_append]
  rfl

/-- The keys are in the order in which they first stand. -/
theorem Table.keys_ofList (entries : List (κ × ν)) :
    (Table.ofList entries).keys = (Entries.keys entries).eraseDups := by
  induction entries using List.reverseRecOn with
  | nil => rfl
  | append_singleton entries e ih =>
    obtain ⟨k, v⟩ := e
    have hkeys : Entries.keys (entries ++ [(k, v)]) = Entries.keys entries ++ [k] :=
      List.map_append
    rw [ofList_concat, keys_insert, ih, hkeys, List.eraseDups_append]
    by_cases h : k ∈ Entries.keys entries
    · rw [if_pos (List.mem_eraseDups.mpr h), List.removeAll,
        List.filter_cons_of_neg (by simpa using h)]
      exact (List.append_nil _).symm
    · rw [if_neg (List.mem_eraseDups.not.mpr h), List.removeAll,
        List.filter_cons_of_pos (by simpa using h)]
      rfl

/-- The values are the last ones of their keys. -/
theorem Table.find?_ofList (entries : List (κ × ν)) :
    (Table.ofList entries).find? key = Entries.find? key entries.reverse := by
  induction entries using List.reverseRecOn with
  | nil => rfl
  | append_singleton entries e ih =>
    obtain ⟨k, v⟩ := e
    rw [ofList_concat, find?_insert, ih, List.reverse_concat]
    rfl

theorem Table.ofList_entries (table : Table κ ν) : Table.ofList table.entries = table := by
  obtain ⟨entries, hnodup⟩ := table
  refine Table.ext ?_
  change (Table.ofList entries).entries = entries
  induction entries using List.reverseRecOn with
  | nil => rfl
  | append_singleton entries e ih =>
    obtain ⟨k, v⟩ := e
    have hkeys : Entries.keys (entries ++ [(k, v)]) = Entries.keys entries ++ [k] :=
      List.map_append
    rw [hkeys, List.nodup_append] at hnodup
    have hnew : k ∉ Entries.keys entries := fun h =>
      hnodup.2.2 k h k (List.mem_singleton_self k) rfl
    rw [ofList_concat]
    change Entries.insert k v (Table.ofList entries).entries = _
    rw [ih hnodup.1, Entries.insert_of_not_mem hnew]

end Tables

/-! ### Known and unknown members -/

namespace OptionKey

theorem mem_all (key : OptionKey) : key ∈ all := by
  cases key <;> decide

theorem nodup_all : all.Nodup := by
  decide

theorem name_injective : Function.Injective name := fun key key' h => by
  have hkeys := congrArg ofName? h
  rw [ofName?_name, ofName?_name] at hkeys
  exact Option.some.inj hkeys

theorem ofName?_eq_some {name : String} {key : OptionKey} :
    ofName? name = some key ↔ key.name = name :=
  ⟨name_of_ofName?, fun h => h ▸ ofName?_name key⟩

theorem ofName?_eq_none {name : String} :
    ofName? name = none ↔ ∀ key : OptionKey, key.name ≠ name := by
  rw [Option.eq_none_iff_forall_ne_some]
  exact forall_congr' fun key => not_congr ofName?_eq_some

end OptionKey

/-- The members that no field stands for. -/
def unknownMembers (members : List (String × Json)) : List (String × Json) :=
  members.filter fun e => (OptionKey.ofName? e.1).isNone

/-- The known options that are given, as often as they are. -/
def givenKeys (members : List (String × Json)) : List OptionKey :=
  members.filterMap fun e => OptionKey.ofName? e.1

section Given

variable {members : List (String × Json)} {key : OptionKey}

theorem mem_givenKeys : key ∈ givenKeys members ↔ key.name ∈ Entries.keys members := by
  unfold givenKeys Entries.keys
  rw [List.mem_filterMap, List.mem_map]
  exact exists_congr fun e => and_congr_right fun _ => OptionKey.ofName?_eq_some.trans eq_comm

theorem givenKeys_append (members more : List (String × Json)) :
    givenKeys (members ++ more) = givenKeys members ++ givenKeys more :=
  List.filterMap_append

theorem unknownMembers_append (members more : List (String × Json)) :
    unknownMembers (members ++ more) = unknownMembers members ++ unknownMembers more :=
  List.filter_append _ _

theorem givenKeys_known (key : OptionKey) (v : Json) : givenKeys [(key.name, v)] = [key] := by
  simp [givenKeys, OptionKey.ofName?_name]

theorem givenKeys_unknown {name : String} {v : Json} (h : OptionKey.ofName? name = none) :
    givenKeys [(name, v)] = [] := by
  simp [givenKeys, h]

theorem unknownMembers_known (key : OptionKey) (v : Json) :
    unknownMembers [(key.name, v)] = [] := by
  simp [unknownMembers, OptionKey.ofName?_name]

end Given

/-! ### Reading members -/

section Reading

variable {members : List (String × Json)} {draft : OptionsDraft} {o : CompilerOptions}

/-- What options come to that are read from members: a field is set by the member under its key,
of which there is one at most, and the others make up a table. -/
structure CompilerOptions.ReadFrom (o : CompilerOptions) (members : List (String × Json)) :
    Prop where
  once : (givenKeys members).Nodup
  given : ∀ (key : OptionKey) (v : Json), (key.name, v) ∈ members →
    key.Accepts v ∧ o.field? key = key.canonical v
  absent : ∀ key, key ∉ givenKeys members → o.field? key = none
  other : o.other = Table.ofList (unknownMembers members)

section One

variable {o' : CompilerOptions} {key : OptionKey} {name : String} {v : Json}

/-- An unknown member is written to the table of the others. -/
theorem CompilerOptions.ReadFrom.unknown (h : o.ReadFrom members)
    (hname : OptionKey.ofName? name = none) :
    { o with other := o.other.insert name v }.ReadFrom (members ++ [(name, v)]) := by
  have hgiven : givenKeys (members ++ [(name, v)]) = givenKeys members := by
    rw [givenKeys_append, givenKeys_unknown hname, List.append_nil]
  have hfield (key : OptionKey) :
      { o with other := o.other.insert name v }.field? key = o.field? key := by
    cases key <;> rfl
  constructor
  case once => exact hgiven ▸ h.once
  case given =>
    intro key v' hmem
    rw [hfield key]
    obtain hmem | hmem := List.mem_append.mp hmem
    · exact h.given key v' hmem
    · obtain ⟨rfl, -⟩ := Prod.mk.inj (List.mem_singleton.mp hmem)
      exact nomatch hname.symm.trans (OptionKey.ofName?_name key)
  case absent =>
    intro key hkey
    rw [hfield key]
    exact h.absent key (hgiven ▸ hkey)
  case other =>
    have hunknown : unknownMembers [(name, v)] = [(name, v)] := by simp [unknownMembers, hname]
    rw [unknownMembers_append, hunknown, Table.ofList_concat, ← h.other]

/-- A known member that is new sets its field. -/
theorem CompilerOptions.ReadFrom.known (h : o.ReadFrom members) (hnew : key ∉ givenKeys members)
    (hset : o.set key v = .ok o') : o'.ReadFrom (members ++ [(key.name, v)]) := by
  obtain ⟨hfields, hother⟩ := untouched_of_set hset
  have hgiven : givenKeys (members ++ [(key.name, v)]) = givenKeys members ++ [key] := by
    rw [givenKeys_append, givenKeys_known]
  constructor
  case once =>
    rw [hgiven, ← List.concat_eq_append]
    exact h.once.concat hnew
  case given =>
    intro key' v' hmem
    obtain hmem | hmem := List.mem_append.mp hmem
    · -- a key in front is another one, and its field is left alone
      have hne : key' ≠ key := fun heq =>
        hnew (heq ▸ mem_givenKeys.mpr (List.mem_map_of_mem hmem))
      rw [hfields key' hne]
      exact h.given key' v' hmem
    · obtain ⟨hname, rfl⟩ := Prod.mk.inj (List.mem_singleton.mp hmem)
      obtain rfl := OptionKey.name_injective hname
      exact accepts_of_set hset
  case absent =>
    intro key' hkey'
    rw [hgiven, List.mem_append, List.mem_singleton, not_or] at hkey'
    rw [hfields key' hkey'.2]
    exact h.absent key' hkey'.1
  case other =>
    rw [unknownMembers_append, unknownMembers_known, List.append_nil, hother, h.other]

end One

/-- **One more member**: an unknown one is written to the table of the others, a known one sets
its field, unless the key was met before. -/
theorem OptionsDraft.step_eq_ok {done : OptionsDraft} {name : String} {v : Json} :
    done.step (name, v) = .ok draft ↔
      (OptionKey.ofName? name = none ∧
        { done with options.other := done.options.other.insert name v } = draft) ∨
      ∃ key, OptionKey.ofName? name = some key ∧ key ∉ done.seen ∧
        ∃ o, done.options.set key v = .ok o ∧ ⟨o, key :: done.seen⟩ = draft := by
  unfold step permit put
  cases OptionKey.ofName? name with
  | none =>
    constructor
    · exact fun h => .inl ⟨rfl, Except.ok.inj h⟩
    · rintro (⟨-, rfl⟩ | ⟨_, h, -⟩)
      · rfl
      · exact nomatch h
  | some key =>
    by_cases hseen : key ∈ done.seen
    · simp only [if_pos hseen]
      refine iff_of_false (nomatch ·) ?_
      rintro (⟨h, -⟩ | ⟨_, h, hnew, -⟩)
      · exact nomatch h
      · exact hnew (Option.some.inj h ▸ hseen)
    · simp only [if_neg hseen]
      change (done.options.set key v >>= fun o => .ok ⟨o, key :: done.seen⟩) = .ok draft ↔ _
      rw [bind_eq_ok]
      constructor
      · rintro ⟨o, hset, h⟩
        exact .inr ⟨key, rfl, hseen, o, hset, Except.ok.inj h⟩
      · rintro (⟨h, -⟩ | ⟨_, h, -, o, hset, rfl⟩)
        · exact nomatch h
        · exact ⟨o, Option.some.inj h ▸ hset, Option.some.inj h ▸ rfl⟩

/-- **What a draft has come to.** The induction puts the last member on top of the others. -/
theorem OptionsDraft.readFrom_of_foldlM (h : members.foldlM OptionsDraft.step {} = .ok draft) :
    draft.options.ReadFrom members ∧ ∀ key, key ∈ draft.seen ↔ key ∈ givenKeys members := by
  induction members using List.reverseRecOn generalizing draft with
  | nil =>
    obtain rfl := Except.ok.inj h
    refine ⟨⟨List.nodup_nil, nofun, fun key _ => ?_, rfl⟩, fun key => Iff.rfl⟩
    cases key <;> rfl
  | append_singleton members e ih =>
    obtain ⟨name, v⟩ := e
    rw [List.foldlM_append, bind_eq_ok] at h
    obtain ⟨done, hdone, h⟩ := h
    rw [List.foldlM_cons, bind_eq_ok] at h
    obtain ⟨last, hstep, h⟩ := h
    obtain rfl := Except.ok.inj h
    obtain ⟨hread, hseen⟩ := ih hdone
    obtain ⟨hname, rfl⟩ | ⟨key, hname, hnew, o, hset, rfl⟩ := step_eq_ok.mp hstep
    · refine ⟨hread.unknown hname, fun key => ?_⟩
      rw [givenKeys_append, givenKeys_unknown hname, List.append_nil]
      exact hseen key
    · obtain rfl := OptionKey.name_of_ofName? hname
      refine ⟨hread.known ((hseen key).not.mp hnew) hset, fun key' => ?_⟩
      rw [givenKeys_append, givenKeys_known, List.mem_append, List.mem_singleton, List.mem_cons,
        hseen key', or_comm]

/-- Members come to options if known keys stand once, with values that they take. -/
theorem OptionsDraft.exists_foldlM (honce : (givenKeys members).Nodup)
    (haccepted : ∀ (key : OptionKey) (v : Json), (key.name, v) ∈ members → key.Accepts v) :
    ∃ draft, members.foldlM OptionsDraft.step {} = .ok draft := by
  induction members using List.reverseRecOn with
  | nil => exact ⟨_, rfl⟩
  | append_singleton members e ih =>
    obtain ⟨name, v⟩ := e
    rw [givenKeys_append, List.nodup_append] at honce
    obtain ⟨done, hdone⟩ := ih honce.1 fun key v hmem =>
      haccepted key v (List.mem_append_left _ hmem)
    have hstep : ∃ draft, done.step (name, v) = .ok draft := by
      cases hname : OptionKey.ofName? name with
      | none => exact ⟨_, step_eq_ok.mpr (.inl ⟨hname, rfl⟩)⟩
      | some key =>
        obtain rfl := OptionKey.name_of_ofName? hname
        have hlast : (key.name, v) ∈ members ++ [(key.name, v)] :=
          List.mem_append_right _ (List.mem_singleton_self _)
        obtain ⟨o, hset⟩ := exists_set done.options (haccepted key v hlast)
        refine ⟨_, step_eq_ok.mpr (.inr ⟨key, hname, fun hseen => ?_, o, hset, rfl⟩)⟩
        -- what the draft has seen is given in front, so that the key would be given twice
        have hgiven := ((readFrom_of_foldlM hdone).2 key).mp hseen
        refine honce.2.2 key hgiven key ?_ rfl
        rw [givenKeys_known]
        exact List.mem_singleton_self key
    obtain ⟨draft, hdraft⟩ := hstep
    refine ⟨draft, ?_⟩
    rw [List.foldlM_append, bind_eq_ok]
    refine ⟨done, hdone, ?_⟩
    rw [List.foldlM_cons, bind_eq_ok]
    exact ⟨draft, hdraft, rfl⟩

end Reading

/-! ### Options and their members -/

namespace CompilerOptions

variable {members : List (String × Json)} {o o' : CompilerOptions}

theorem ReadFrom.unique (h : o.ReadFrom members) (h' : o'.ReadFrom members) : o = o' := by
  refine ext_field? (fun key => ?_) (h.other.trans h'.other.symm)
  -- a field is what its member says, or nothing if there is none
  by_cases hkey : key ∈ givenKeys members
  · obtain ⟨⟨name, v⟩, hmem, rfl⟩ := List.mem_map.mp (mem_givenKeys.mp hkey)
    rw [(h.given key v hmem).2, (h'.given key v hmem).2]
  · rw [h.absent key hkey, h'.absent key hkey]

/-- **Options are read from their members.** -/
theorem ofMembers_eq_ok_iff : ofMembers members = .ok o ↔ o.ReadFrom members := by
  rw [ofMembers_eq_ok]
  constructor
  · rintro ⟨draft, hdraft, rfl⟩
    exact (OptionsDraft.readFrom_of_foldlM hdraft).1
  · intro h
    obtain ⟨draft, hdraft⟩ :=
      OptionsDraft.exists_foldlM h.once fun key v hmem => (h.given key v hmem).1
    exact ⟨draft, hdraft, (OptionsDraft.readFrom_of_foldlM hdraft).1.unique h⟩

/-- All members can be read but those that repeat a known key or give it another value than it
takes. -/
theorem exists_ofMembers_iff :
    (∃ o, ofMembers members = .ok o) ↔ (givenKeys members).Nodup ∧
      ∀ (key : OptionKey) (v : Json), (key.name, v) ∈ members → key.Accepts v := by
  constructor
  · rintro ⟨o, h⟩
    have hread := ofMembers_eq_ok_iff.mp h
    exact ⟨hread.once, fun key v hmem => (hread.given key v hmem).1⟩
  · rintro ⟨honce, haccepted⟩
    obtain ⟨draft, hdraft⟩ := OptionsDraft.exists_foldlM honce haccepted
    exact ⟨draft.options, ofMembers_eq_ok.mpr ⟨draft, hdraft, rfl⟩⟩

/-! ### The members of options -/

/-- The fields that are written, under these keys. -/
def writtenFields (o : CompilerOptions) (keys : List OptionKey) : List (String × Json) :=
  keys.filterMap fun key => (o.field? key).map fun v => (key.name, v)

theorem members_eq (o : CompilerOptions) :
    o.members = o.writtenFields OptionKey.all ++ o.other.entries := rfl

theorem mem_writtenFields {keys : List OptionKey} {name : String} {v : Json} :
    (name, v) ∈ o.writtenFields keys ↔ ∃ key ∈ keys, key.name = name ∧ o.field? key = some v := by
  unfold writtenFields
  simp only [List.mem_filterMap, Option.map_eq_some_iff, Prod.mk.injEq]
  constructor
  · rintro ⟨key, hkey, _, hv, rfl, rfl⟩
    exact ⟨key, hkey, rfl, hv⟩
  · rintro ⟨key, hkey, rfl, hv⟩
    exact ⟨key, hkey, v, hv, rfl, rfl⟩

theorem keys_writtenFields (o : CompilerOptions) (keys : List OptionKey) :
    Entries.keys (o.writtenFields keys) =
      (keys.filter fun key => (o.field? key).isSome).map OptionKey.name := by
  induction keys with
  | nil => rfl
  | cons key keys ih =>
    unfold writtenFields at ih ⊢
    cases hv : o.field? key with
    | none =>
      rw [List.filterMap_cons_none (by rw [hv]; rfl), List.filter_cons_of_neg (by simp [hv]), ih]
    | some v =>
      rw [List.filterMap_cons_some (by rw [hv]; rfl), List.filter_cons_of_pos (by simp [hv]),
        List.map_cons, ← ih]
      rfl

section Written

variable (h : ∀ key : OptionKey, key.name ∉ o.other.keys)
include h

theorem ofName?_of_mem_other {e : String × Json} (he : e ∈ o.other.entries) :
    OptionKey.ofName? e.1 = none :=
  OptionKey.ofName?_eq_none.mpr fun key hkey => h key (hkey ▸ List.mem_map_of_mem he)

theorem nodup_keys_members : (Entries.keys o.members).Nodup := by
  have hkeys : Entries.keys o.members =
      Entries.keys (o.writtenFields OptionKey.all) ++ o.other.keys := List.map_append
  rw [hkeys, keys_writtenFields, List.nodup_append]
  refine ⟨(OptionKey.nodup_all.filter _).map OptionKey.name_injective, o.other.nodup, ?_⟩
  rintro _ hfield name hother rfl
  obtain ⟨key, -, rfl⟩ := List.mem_map.mp hfield
  exact h key hother

theorem givenKeys_members :
    givenKeys o.members = OptionKey.all.filter fun key => (o.field? key).isSome := by
  have hother : givenKeys o.other.entries = [] :=
    List.filterMap_eq_nil_iff.mpr fun e he => ofName?_of_mem_other h he
  have hkeys : givenKeys (o.writtenFields OptionKey.all) =
      (Entries.keys (o.writtenFields OptionKey.all)).filterMap OptionKey.ofName? := by
    unfold givenKeys Entries.keys
    rw [List.filterMap_map]
    rfl
  rw [members_eq, givenKeys_append, hother, List.append_nil, hkeys, keys_writtenFields,
    List.filterMap_map]
  exact (List.filterMap_congr fun key _ => OptionKey.ofName?_name key).trans List.filterMap_some

theorem unknownMembers_members : unknownMembers o.members = o.other.entries := by
  have hfields : unknownMembers (o.writtenFields OptionKey.all) = [] := by
    refine List.filter_eq_nil_iff.mpr fun e he => ?_
    obtain ⟨key, -, hname, -⟩ := mem_writtenFields.mp he
    rw [← hname, OptionKey.ofName?_name]
    exact Bool.false_ne_true
  rw [members_eq, unknownMembers_append, hfields, List.nil_append]
  refine List.filter_eq_self.mpr fun e he => ?_
  rw [ofName?_of_mem_other h he]
  rfl

/-- **Options are read from the members that they are written as.** -/
theorem readFrom_members : o.ReadFrom o.members := by
  have hgiven := givenKeys_members h
  constructor
  case once =>
    rw [hgiven]
    exact OptionKey.nodup_all.filter _
  case given =>
    intro key v hmem
    obtain hmem | hmem := List.mem_append.mp hmem
    · obtain ⟨key', -, hname, hv⟩ := mem_writtenFields.mp hmem
      obtain rfl := OptionKey.name_injective hname
      obtain ⟨haccepts, hcanonical⟩ := accepts_of_field? hv
      exact ⟨haccepts, hv.trans hcanonical.symm⟩
    · exact absurd (List.mem_map_of_mem hmem) (h key)
  case absent =>
    intro key hkey
    rw [hgiven, List.mem_filter, and_iff_right (OptionKey.mem_all key)] at hkey
    exact Option.not_isSome_iff_eq_none.mp hkey
  case other => rw [unknownMembers_members h, Table.ofList_entries]

end Written

theorem ReadFrom.not_mem_other (h : o.ReadFrom members) (key : OptionKey) :
    key.name ∉ o.other.keys := by
  rw [h.other, Table.keys_ofList, List.mem_eraseDups]
  intro hmem
  obtain ⟨e, he, hname⟩ := List.mem_map.mp hmem
  have hnone := (List.mem_filter.mp he).2
  rw [hname, OptionKey.ofName?_name] at hnone
  exact Bool.false_ne_true hnone

/-- Plugin entries are kept as they are. -/
theorem ReadFrom.plugins (h : o.ReadFrom members) {entries : List Json}
    (hmem : (OptionKey.plugins.name, .array entries) ∈ members) : o.plugins = entries :=
  plugins_injective (h.given .plugins _ hmem).2

/-! ### The round trip -/

namespace Sample

/-- Members that are not written as they stand here: unknown ones are repeated, a field is
absent, and the target has another name. -/
def given : List (String × Json) :=
  [("strict", .bool true), ("plugins", .array [.object [("transform", .string "./a")]]),
    ("paths", .null), ("target", .string " ES6 "), ("lib", .null), ("strict", .bool false)]

/-- The options that they come to. -/
def options : CompilerOptions where
  target := some .es2015
  plugins := [.object [("transform", .string "./a")]]
  other := .ofList [("strict", .bool false), ("paths", .null)]

/-- The text that is written. -/
def text : String :=
  "\x7b\"target\":\"es2015\",\"plugins\":[\x7b\"transform\":\"./a\"\x7d]," ++
    "\"strict\":false,\"paths\":null\x7d"

end Sample

/-- **Options survive a round trip.** The options in a text are read from the members that its
object has, whatever these are, as long as a known key stands once and takes its value. Of
options that are read from members,

* the unknown members make up the table of the others: in the order in which their keys first
  stand, with the last of their values, and no field among them;
* a field is written as the value of its key, in the canonical spelling, and it is not set if
  the key is not given; plugin entries are kept as they are;
* what is written are the fields that are set, in a fixed order, and behind them the others in
  theirs, with no key repeated;
* what is written is read as the same options again, and is written as it is: from its members,
  and from every text that has them.
-/
theorem options_round_trip :
    (∀ text o, parse text = .ok o ↔
      ∃ members, Json.membersOf text = .ok members ∧ ofMembers members = .ok o) ∧
    (∀ members, (∃ o, ofMembers members = .ok o) ↔ (givenKeys members).Nodup ∧
      ∀ (key : OptionKey) (v : Json), (key.name, v) ∈ members → key.Accepts v) ∧
    ∀ members o, ofMembers members = .ok o →
      ((∀ key : OptionKey, key.name ∉ o.other.keys) ∧
        o.other.keys = (Entries.keys (unknownMembers members)).eraseDups ∧
        ∀ name, o.other.find? name = Entries.find? name (unknownMembers members).reverse) ∧
      ((∀ (key : OptionKey) (v : Json), (key.name, v) ∈ members →
          o.field? key = key.canonical v) ∧
        (∀ key : OptionKey, key.name ∉ Entries.keys members → o.field? key = none) ∧
        ∀ entries, (OptionKey.plugins.name, .array entries) ∈ members → o.plugins = entries) ∧
      (o.toJson = .object (o.writtenFields OptionKey.all ++ o.other.entries) ∧
        Entries.keys (o.writtenFields OptionKey.all) =
          (OptionKey.all.filter fun key => (o.field? key).isSome).map OptionKey.name ∧
        (Entries.keys o.members).Nodup) ∧
      ofMembers o.members = .ok o ∧
      toJson <$> ofMembers o.members = .ok o.toJson ∧
      ∀ text, Json.membersOf text = .ok o.members →
        Json.parse text = .ok o.toJson ∧ parse text = .ok o := by
  refine ⟨fun _ _ => parse_eq_ok_iff, fun _ => exists_ofMembers_iff, fun members o hread => ?_⟩
  have h := ofMembers_eq_ok_iff.mp hread
  have hother := h.not_mem_other
  -- the form that is read is the form that is written, since no other key is a known one
  have hagain : ofMembers o.members = .ok o := ofMembers_eq_ok_iff.mpr (readFrom_members hother)
  refine ⟨⟨hother, ?_, fun name => ?_⟩, ⟨?_, fun key hkey => ?_, ?_⟩, ⟨rfl, ?_, ?_⟩, hagain,
    ?_, fun text htext => ?_⟩
  · rw [h.other, Table.keys_ofList]
  · rw [h.other, Table.find?_ofList]
  · exact fun key v hmem => (h.given key v hmem).2
  · exact h.absent key (mem_givenKeys.not.mpr hkey)
  · exact fun entries hmem => h.plugins hmem
  · exact keys_writtenFields o OptionKey.all
  · exact nodup_keys_members hother
  · rw [hagain]
    rfl
  · have hjson : Json.ofMembers o.members = o.toJson :=
      congrArg (fun table : Table String Json => Json.object table.entries)
        (Table.ofList_entries ⟨o.members, nodup_keys_members hother⟩)
    exact ⟨hjson ▸ Json.parse_of_membersOf htext, parse_eq_ok_iff.mpr ⟨o.members, htext, hagain⟩⟩

theorem options_round_trip_sample :
    ofMembers Sample.given = .ok Sample.options ∧ Sample.options.other.keys = ["strict", "paths"] ∧
      Sample.options.other.find? "strict" = some (.bool false) ∧
      Sample.options.field? .target = some (.string "es2015") ∧
      Sample.options.field? .lib = none ∧ Sample.options.field? .noEmit = none ∧
      Sample.options.plugins = [.object [("transform", .string "./a")]] ∧
      Sample.options.toJson.render = Sample.text ∧ parse Sample.text = .ok Sample.options := by
  have hread : ofMembers Sample.given = .ok Sample.options := by decide +kernel
  have htext : Json.membersOf Sample.text = .ok Sample.options.members := by decide +kernel
  obtain ⟨⟨-, hkeys, hfind⟩, ⟨hgiven, habsent, hplugins⟩, -, -, -, hparse⟩ :=
    options_round_trip.2.2 Sample.given Sample.options hread
  refine ⟨hread, hkeys.trans (by decide), (hfind "strict").trans (by decide), ?_, ?_, ?_, ?_, ?_,
    ?_⟩
  · exact (hgiven .target (.string " ES6 ") (by decide)).trans (by decide +kernel)
  · exact hgiven .lib .null (by decide)
  · exact habsent .noEmit (by decide)
  · exact hplugins _ (by decide)
  · decide +kernel
  · exact (hparse Sample.text htext).2

end CompilerOptions

end TransformerEngine
