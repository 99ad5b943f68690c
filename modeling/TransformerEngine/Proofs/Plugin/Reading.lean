import TransformerEngine.Proofs.Plugin.Meaning

/-!
# Reading one entry

Reading an entry of a `plugins` array settles what the entry means: it comes to the descriptors
that the entry configures, and it fails for the reason for which the entry is malformed
(`settles_descriptors`).

This is put together from the same statement about each part of an entry (`Settles`), since a
reading that goes on behind another settles what both of them do (`Settles.bind`). The parts are
read in the order in which faults count, so that what is wrong further behind matters only where
everything in front of it is right.
-/

namespace TransformerEngine

namespace PluginEntry

/-! ### Readings that settle something -/

/-- The reading comes to the values that are right, and fails for the reasons for which
something is wrong. -/
structure Settles {α : Type} (reading : Except String α) (Right : α → Prop)
    (Wrong : String → Prop) : Prop where
  ok : ∀ a, reading = .ok a ↔ Right a
  error : ∀ reason, reading = .error reason ↔ Wrong reason

namespace Settles

variable {α β : Type} {reading : Except String α} {Right Right' : α → Prop}
variable {Wrong Wrong' : String → Prop}

/-- A reading that succeeds settles what only its value is right for, and nothing is wrong. -/
theorem of_ok {a : α} (hright : ∀ b, Right b ↔ b = a) (hwrong : ∀ reason, ¬Wrong reason) :
    Settles (.ok a) Right Wrong where
  ok b := by
    rw [hright, Except.ok.injEq]
    exact eq_comm
  error reason := iff_of_false (nomatch ·) (hwrong reason)

/-- A reading that fails settles what only its reason is wrong for, and nothing is right. -/
theorem of_error {reason : String} (hright : ∀ a, ¬Right a)
    (hwrong : ∀ other, Wrong other ↔ other = reason) : Settles (.error reason) Right Wrong where
  ok a := iff_of_false (nomatch ·) (hright a)
  error other := by
    rw [hwrong, Except.error.injEq]
    exact eq_comm

theorem congr (h : Settles reading Right Wrong) (hright : ∀ a, Right a ↔ Right' a)
    (hwrong : ∀ reason, Wrong reason ↔ Wrong' reason) : Settles reading Right' Wrong' where
  ok a := (h.ok a).trans (hright a)
  error reason := (h.error reason).trans (hwrong reason)

/-- Only one value is right. -/
theorem unique (h : Settles reading Right Wrong) {a b : α} (ha : Right a) (hb : Right b) : a = b :=
  Except.ok.inj (((h.ok a).mpr ha).symm.trans ((h.ok b).mpr hb))

/-- Something is right exactly where nothing is wrong. -/
theorem exists_right_iff (h : Settles reading Right Wrong) :
    (∃ a, Right a) ↔ ∀ reason, ¬Wrong reason := by
  cases reading with
  | error reason =>
    refine iff_of_false ?_ (fun hnone => hnone reason ((h.error reason).mp rfl))
    rintro ⟨a, ha⟩
    exact nomatch (h.ok a).mpr ha
  | ok a =>
    refine iff_of_true ⟨a, (h.ok a).mp rfl⟩ ?_
    intro reason hreason
    exact nomatch (h.error reason).mpr hreason

/-- **One reading after the other.** What comes second can only be wrong where what comes first
is right. -/
theorem bind {next : α → Except String β} {RightNext : α → β → Prop}
    {WrongNext : α → String → Prop} (h : Settles reading Right Wrong)
    (hnext : ∀ a, Right a → Settles (next a) (RightNext a) (WrongNext a)) :
    Settles (reading >>= next) (fun b => ∃ a, Right a ∧ RightNext a b)
      (fun reason => Wrong reason ∨ ∃ a, Right a ∧ WrongNext a reason) := by
  cases reading with
  | error reason =>
    have hnone : ∀ a, ¬Right a := fun a ha => nomatch (h.ok a).mpr ha
    refine of_error ?_ ?_
    · rintro b ⟨a, ha, -⟩
      exact hnone a ha
    · intro other
      have hsame : Wrong other ↔ other = reason := by
        rw [← h.error other, Except.error.injEq]
        exact eq_comm
      rw [← hsame]
      exact or_iff_left fun ⟨a, ha, _⟩ => hnone a ha
  | ok a =>
    have hright : ∀ {b : α}, Right b ↔ b = a := by
      intro b
      rw [← h.ok b, Except.ok.injEq]
      exact eq_comm
    have ha := hnext a (hright.mpr rfl)
    show Settles (next a) _ _
    refine ha.congr ?_ ?_
    · intro b
      simp only [hright, exists_eq_left]
    · intro reason
      have hsound : ¬Wrong reason := fun hwrong => nomatch (h.error reason).mpr hwrong
      simp only [hright, exists_eq_left, hsound, false_or]

/-- What is made of the value cannot be wrong. -/
theorem bind_ok (h : Settles reading Right Wrong) (f : α → β) :
    Settles (reading >>= fun a => .ok (f a)) (fun b => ∃ a, Right a ∧ b = f a) Wrong := by
  have hnext : ∀ a, Right a → Settles (Except.ok (f a)) (· = f a) (fun _ => False) :=
    fun a _ => of_ok (fun _ => Iff.rfl) fun _ => not_false
  refine (h.bind hnext).congr (fun _ => Iff.rfl) ?_
  intro reason
  exact or_iff_left fun ⟨_, _, hnone⟩ => hnone

end Settles

/-! ### Reading an entry -/

section Reading

variable {base : Option String} {entry groups : Members} {phase : Phase}

/-- A list of paths is read if and only if all of its items are texts. -/
theorem settles_paths (base : Option String) (entry : Members) (phase : Phase)
    (items : List Json) :
    Settles (items.mapM (groupPath base entry phase.name phase))
      (fun ds => ∃ paths : List String, items = paths.map .string ∧
        ds = paths.map (pathDescriptor base entry phase))
      (fun reason => (∃ item ∈ items, item.string? = none) ∧
        reason = s!"`customTransformers.{phase.name}` entries must be strings") := by
  induction items with
  | nil =>
    rw [List.mapM_nil]
    refine Settles.of_ok ?_ ?_
    · intro ds
      constructor
      · rintro ⟨paths, hpaths, rfl⟩
        rw [List.map_eq_nil_iff.mp hpaths.symm, List.map_nil]
      · rintro rfl
        exact ⟨[], rfl, rfl⟩
    · rintro reason ⟨⟨item, hitem, -⟩, -⟩
      exact List.not_mem_nil hitem
  | cons item rest ih =>
    rw [List.mapM_cons]
    -- an item is a text, and comes to its descriptor, or it is the fault
    cases item with
    | string path =>
      show Settles ((rest.mapM (groupPath base entry phase.name phase)) >>= fun ds =>
        Except.ok (pathDescriptor base entry phase path :: ds)) _ _
      refine (ih.bind_ok fun ds => pathDescriptor base entry phase path :: ds).congr ?_ ?_
      · intro all
        constructor
        · rintro ⟨ds, ⟨paths, rfl, rfl⟩, rfl⟩
          exact ⟨path :: paths, rfl, rfl⟩
        · rintro ⟨paths, hpaths, rfl⟩
          cases paths with
          | nil => exact nomatch hpaths
          | cons first paths =>
            obtain ⟨hfirst, hrest⟩ := List.cons.inj hpaths
            obtain rfl := Json.string.inj hfirst
            exact ⟨_, ⟨paths, hrest, rfl⟩, rfl⟩
      · intro reason
        have hpath : (Json.string path).string? ≠ none := Option.some_ne_none path
        simp [hpath]
    | _ =>
      refine Settles.of_error ?_ ?_
      · rintro ds ⟨paths, hpaths, -⟩
        cases paths with
        | nil => exact nomatch hpaths
        | cons first paths => exact nomatch (List.cons.inj hpaths).1
      · intro reason
        exact and_iff_right ⟨_, List.mem_cons_self, rfl⟩

/-- **A group** comes to the descriptors of the paths that it lists. -/
theorem settles_group (base : Option String) (entry groups : Members) (phase : Phase) :
    Settles (group base entry groups phase)
      (fun ds => ∃ paths, Lists groups phase paths ∧
        ds = paths.map (pathDescriptor base entry phase))
      (GroupFault groups phase) := by
  unfold group
  -- a group is missing, a list that its items decide about, or no list
  cases hfound : Entries.find? phase.name groups with
  | none =>
    refine Settles.of_ok ?_ ?_
    · intro ds
      constructor
      · rintro ⟨paths, hlists, rfl⟩
        cases hlists with
        | missing => rfl
        | listed h => exact nomatch hfound.symm.trans h
      · rintro rfl
        exact ⟨[], .missing hfound, rfl⟩
    · intro reason hfault
      exact hfault.found hfound
  | some value =>
    cases value with
    | array items =>
      refine (settles_paths base entry phase items).congr ?_ ?_
      · intro ds
        constructor
        · rintro ⟨paths, rfl, rfl⟩
          exact ⟨paths, .listed hfound, rfl⟩
        · rintro ⟨paths, hlists, rfl⟩
          cases hlists with
          | missing h => exact nomatch hfound.symm.trans h
          | listed h =>
            exact ⟨paths, Json.array.inj (Option.some.inj (hfound.symm.trans h)), rfl⟩
      · intro reason
        constructor
        · rintro ⟨⟨item, hitem, hvalue⟩, rfl⟩
          exact .notPath hfound hitem hvalue
        · intro hfault
          cases hfault with
          | notList h hvalue =>
            obtain rfl := Option.some.inj (hfound.symm.trans h)
            exact nomatch hvalue
          | notPath h hitem hvalue =>
            obtain rfl := Json.array.inj (Option.some.inj (hfound.symm.trans h))
            exact ⟨⟨_, hitem, hvalue⟩, rfl⟩
    | _ =>
      refine Settles.of_error ?_ ?_
      · rintro ds ⟨paths, hlists, -⟩
        cases hlists with
        | missing h => exact nomatch hfound.symm.trans h
        | listed h => exact nomatch hfound.symm.trans h
      · intro reason
        constructor
        · intro hfault
          cases hfault with
          | notList => rfl
          | notPath h => exact nomatch hfound.symm.trans h
        · rintro rfl
          exact .notList hfound rfl

/-- **The older form** of an entry comes to what the entry configures in it. -/
theorem settles_older (base : Option String) (entry : Members) :
    Settles (if hasGroups entry then groupDescriptors base entry else .ok [])
      (Older base entry) (OlderFault entry) := by
  unfold hasGroups groupDescriptors
  cases hfound : Entries.find? groupsKey entry with
  | none =>
    refine Settles.of_ok ?_ ?_
    · intro ds
      constructor
      · intro holder
        cases holder with
        | absent => rfl
        | groups h => exact nomatch hfound.symm.trans h
      · rintro rfl
        exact .absent hfound
    · intro reason hfault
      exact hfault.found hfound
  | some value =>
    cases value with
    | object groups =>
      -- the groups are read one after the other
      have hread := (settles_group base entry groups .before).bind fun before _ =>
        (settles_group base entry groups .after).bind_ok fun after => before ++ after
      refine hread.congr ?_ ?_
      · intro ds
        constructor
        · rintro ⟨_, ⟨before, hbefore, rfl⟩, _, ⟨after, hafter, rfl⟩, rfl⟩
          exact .groups hfound hbefore hafter
        · intro holder
          cases holder with
          | absent h => exact nomatch hfound.symm.trans h
          | groups h hbefore hafter =>
            obtain rfl := Json.object.inj (Option.some.inj (hfound.symm.trans h))
            exact ⟨_, ⟨_, hbefore, rfl⟩, _, ⟨_, hafter, rfl⟩, rfl⟩
      · intro reason
        constructor
        · rintro (hbefore | ⟨_, ⟨paths, hbefore, rfl⟩, hafter⟩)
          · exact .before hfound hbefore
          · exact .after hfound hbefore hafter
        · intro hfault
          rcases hfault.of_groups hfound with hbefore | ⟨⟨paths, hbefore⟩, hafter⟩
          · exact .inl hbefore
          · exact .inr ⟨_, ⟨paths, hbefore, rfl⟩, hafter⟩
    | _ =>
      refine Settles.of_error ?_ ?_
      · intro ds holder
        cases holder with
        | absent h => exact nomatch hfound.symm.trans h
        | groups h => exact nomatch hfound.symm.trans h
      · intro reason
        constructor
        · intro hfault
          cases hfault with
          | notGroups => rfl
          | before h => exact nomatch hfound.symm.trans h
          | after h => exact nomatch hfound.symm.trans h
        · rintro rfl
          exact .notGroups hfound rfl

/-- The import is read off the member where it is given. -/
theorem importName_eq (entry : Members) :
    importName entry =
      match given? entry "import" with
      | none => .ok none
      | some (.string name) => .ok (some name)
      | some _ => .error "`import` must be a string" := by
  unfold importName
  cases hfound : Entries.find? "import" entry with
  | none => rw [given?_of_none hfound]
  | some value =>
    cases value with
    | null => rw [given?_of_null hfound]
    | _ => rw [given?_of_some hfound (by simp)]

theorem declaredKind_eq (entry : Members) :
    declaredKind entry =
      match given? entry "type" with
      | none => .ok .plain
      | some (.string name) =>
        match PluginKind.ofName? name with
        | some kind => .ok kind
        | none => .error s!"unknown transformer type '{name}'"
      | some _ => .error "`type` must be a string" := by
  unfold declaredKind
  cases hfound : Entries.find? "type" entry with
  | none =>
    rw [given?_of_none hfound]
    rfl
  | some value =>
    cases value with
    | null =>
      rw [given?_of_null hfound]
      rfl
    | string name =>
      have hgiven : given? entry "type" = some (.string name) := given?_of_some hfound (by simp)
      generalize given? entry "type" = given at hgiven ⊢
      subst hgiven
      rfl
    | _ => rw [given?_of_some hfound (by simp)]

/-- The import of an entry. -/
theorem settles_import (entry : Members) :
    Settles (importName entry) (Imports entry)
      (fun reason => (∃ value, given? entry "import" = some value ∧ value.string? = none) ∧
        reason = "`import` must be a string") := by
  rw [importName_eq]
  cases hgiven : given? entry "import" with
  | none =>
    refine Settles.of_ok ?_ ?_
    · intro name
      constructor
      · intro h
        cases h with
        | default => rfl
        | named h => exact nomatch hgiven.symm.trans h
      · rintro rfl
        exact .default hgiven
    · rintro reason ⟨⟨value, h, -⟩, -⟩
      exact nomatch h
  | some value =>
    cases value with
    | string name =>
      refine Settles.of_ok ?_ ?_
      · intro other
        constructor
        · intro h
          cases h with
          | default h => exact nomatch hgiven.symm.trans h
          | named h => rw [Json.string.inj (Option.some.inj (hgiven.symm.trans h))]
        · rintro rfl
          exact .named hgiven
      · rintro reason ⟨⟨value, h, hvalue⟩, -⟩
        obtain rfl := Option.some.inj h
        exact nomatch hvalue
    | _ =>
      refine Settles.of_error ?_ ?_
      · intro name h
        cases h with
        | default h => exact nomatch hgiven.symm.trans h
        | named h => exact nomatch hgiven.symm.trans h
      · intro reason
        exact and_iff_right ⟨_, rfl, rfl⟩

theorem ofName?_eq_some_iff {name : String} {kind : PluginKind} :
    PluginKind.ofName? name = some kind ↔ kind.name = name := by
  constructor
  · intro h
    unfold PluginKind.ofName? at h
    simpa using List.find?_some h
  · rintro rfl
    exact PluginKind.ofName?_name kind

theorem ofName?_eq_none_iff {name : String} :
    PluginKind.ofName? name = none ↔ ∀ kind : PluginKind, kind.name ≠ name := by
  rw [Option.eq_none_iff_forall_ne_some]
  exact forall_congr' fun kind => not_congr ofName?_eq_some_iff

/-- The kind that an entry declares. -/
theorem settles_kind (entry : Members) :
    Settles (declaredKind entry) (Declares entry)
      (fun reason =>
        (∃ name, given? entry "type" = some (.string name) ∧
          (∀ kind : PluginKind, kind.name ≠ name) ∧
          reason = s!"unknown transformer type '{name}'") ∨
        (∃ value, given? entry "type" = some value ∧ value.string? = none) ∧
          reason = "`type` must be a string") := by
  rw [declaredKind_eq]
  cases hgiven : given? entry "type" with
  | none =>
    refine Settles.of_ok ?_ ?_
    · intro kind
      constructor
      · intro h
        cases h with
        | default => rfl
        | named h => exact nomatch hgiven.symm.trans h
      · rintro rfl
        exact .default hgiven
    · rintro reason (⟨name, h, -⟩ | ⟨⟨value, h, -⟩, -⟩)
      · exact nomatch h
      · exact nomatch h
  | some value =>
    cases value with
    | string name =>
      -- the text decides which kind is declared
      have hname : ∀ {kind : PluginKind}, Declares entry kind ↔ kind.name = name := by
        intro kind
        constructor
        · intro h
          cases h with
          | default h => exact nomatch hgiven.symm.trans h
          | named h => exact (Json.string.inj (Option.some.inj (hgiven.symm.trans h))).symm
        · rintro rfl
          exact .named hgiven
      show Settles (match PluginKind.ofName? name with
        | some kind => .ok kind
        | none => .error s!"unknown transformer type '{name}'") _ _
      -- the text is the name of a kind, or of none
      cases hkind : PluginKind.ofName? name with
      | some kind =>
        have hsame := ofName?_eq_some_iff.mp hkind
        refine Settles.of_ok ?_ ?_
        · intro other
          rw [hname, ← ofName?_eq_some_iff, hkind, Option.some.injEq]
          exact eq_comm
        · rintro reason (⟨other, h, hnone, -⟩ | ⟨⟨value, h, hvalue⟩, -⟩)
          · obtain rfl := Json.string.inj (Option.some.inj h)
            exact hnone kind hsame
          · obtain rfl := Option.some.inj h
            exact nomatch hvalue
      | none =>
        have hnone := ofName?_eq_none_iff.mp hkind
        refine Settles.of_error ?_ ?_
        · intro kind h
          exact hnone kind (hname.mp h)
        · intro reason
          constructor
          · rintro (⟨other, h, -, rfl⟩ | ⟨⟨value, h, hvalue⟩, -⟩)
            · rw [Json.string.inj (Option.some.inj h)]
            · obtain rfl := Option.some.inj h
              exact nomatch hvalue
          · rintro rfl
            exact .inl ⟨name, rfl, hnone, rfl⟩
    | _ =>
      refine Settles.of_error ?_ ?_
      · intro kind h
        cases h with
        | default h => exact nomatch hgiven.symm.trans h
        | named h => exact nomatch hgiven.symm.trans h
      · intro reason
        constructor
        · rintro (⟨name, h, -⟩ | ⟨-, rfl⟩)
          · exact nomatch h
          · rfl
        · rintro rfl
          exact .inr ⟨⟨_, rfl, rfl⟩, rfl⟩

theorem runsIn_iff {p : Phase} : RunsIn entry p ↔ p = PluginEntry.phase entry := by
  unfold PluginEntry.phase
  by_cases hdeclarations : Sets entry "afterDeclarations"
  · rw [if_pos (flag_iff.mpr hdeclarations)]
    constructor
    · intro h
      cases h with
      | afterDeclarations => rfl
      | after hnot => exact absurd hdeclarations hnot
      | before hnot => exact absurd hdeclarations hnot
    · rintro rfl
      exact .afterDeclarations hdeclarations
  · rw [if_neg (fun hflag => hdeclarations (flag_iff.mp hflag))]
    by_cases hafter : Sets entry "after"
    · rw [if_pos (flag_iff.mpr hafter)]
      constructor
      · intro h
        cases h with
        | afterDeclarations h => exact absurd h hdeclarations
        | after => rfl
        | before _ h => exact absurd hafter h
      · rintro rfl
        exact .after hdeclarations hafter
    · rw [if_neg (fun hflag => hafter (flag_iff.mp hflag))]
      constructor
      · intro h
        cases h with
        | afterDeclarations h => exact absurd h hdeclarations
        | after _ h => exact absurd h hafter
        | before => rfl
      · rintro rfl
        exact .before hdeclarations hafter

theorem marksProgram_iff : marksProgram entry = true ↔ Marks entry := by
  unfold marksProgram Marks
  rw [Bool.or_eq_true, flag_iff, flag_iff]

/-- The descriptor of an entry that names a module, asks for an import and declares a kind. -/
def namedDescriptor (base : Option String) (entry : Members) (specifier : String)
    (imported : Option String) (declared : PluginKind) : PluginDescriptor :=
  let kind := if marksProgram entry then .program else declared
  { module := resolveSpecifier specifier base, importName := imported, kind
    phase := PluginEntry.phase entry, beforeEmit := kind = .program, config := .object entry }

/-- The module that an entry names, as the member is given. -/
theorem newer_eq (base : Option String) (entry : Members) :
    (if namesModule entry then List.singleton <$> moduleDescriptor base entry else .ok []) =
      match given? entry moduleKey with
      | none => .ok []
      | some (.string specifier) =>
        importName entry >>= fun imported => declaredKind entry >>= fun declared =>
          .ok [namedDescriptor base entry specifier imported declared]
      | some _ => .error "`transform` must be a module path string" := by
  unfold namesModule moduleDescriptor
  cases hfound : Entries.find? moduleKey entry with
  | none =>
    rw [given?_of_none hfound]
    rfl
  | some value =>
    cases value with
    | null =>
      rw [given?_of_null hfound]
      rfl
    | string specifier =>
      rw [given?_of_some hfound (by simp)]
      show List.singleton <$> (importName entry >>= fun imported => declaredKind entry >>=
        fun declared => Except.ok (namedDescriptor base entry specifier imported declared)) = _
      cases importName entry with
      | error reason => rfl
      | ok imported =>
        cases declaredKind entry with
        | error reason => rfl
        | ok declared => rfl
    | _ =>
      rw [given?_of_some hfound (by simp)]
      rfl

/-- A descriptor is the named one if and only if all that is said of it holds. -/
theorem newer_iff {specifier : String} {imported : Option String} {declared : PluginKind}
    (h : given? entry moduleKey = some (.string specifier)) (himport : Imports entry imported)
    (hdeclared : Declares entry declared) {ds : List PluginDescriptor} :
    Newer base entry ds ↔ ds = [namedDescriptor base entry specifier imported declared] := by
  constructor
  · intro hnewer
    cases hnewer with
    | absent h' => exact nomatch h.symm.trans h'
    | @named specifier' declared' d h' hmodule himport' hdeclared' hmarked hunmarked hphase hemit
        hconfig =>
      obtain rfl := Json.string.inj (Option.some.inj (h.symm.trans h'))
      have hname := (settles_import entry).unique himport' himport
      obtain rfl := (settles_kind entry).unique hdeclared hdeclared'
      -- the marks win over what is declared
      have hkind : d.kind = if marksProgram entry then .program else declared := by
        by_cases hmarks : Marks entry
        · rw [if_pos (marksProgram_iff.mpr hmarks), hmarked hmarks]
        · rw [if_neg (fun hflag => hmarks (marksProgram_iff.mp hflag)), hunmarked hmarks]
      have hbefore : d.beforeEmit =
          decide ((if marksProgram entry then .program else declared) = PluginKind.program) := by
        rw [Bool.eq_iff_iff, hemit, decide_eq_true_iff, hkind]
      have hruns := runsIn_iff.mp hphase
      have hd : d = namedDescriptor base entry specifier imported declared := by
        obtain ⟨module, importName, kind, phase, beforeEmit, config⟩ := d
        unfold namedDescriptor
        rw [PluginDescriptor.mk.injEq]
        exact ⟨hmodule, hname, hkind, hruns, hbefore, hconfig⟩
      rw [hd]
  · rintro rfl
    refine .named h rfl himport hdeclared ?_ ?_ (runsIn_iff.mpr rfl) decide_eq_true_iff rfl
    · intro hmarks
      exact if_pos (marksProgram_iff.mpr hmarks)
    · intro hmarks
      exact if_neg (fun hflag => hmarks (marksProgram_iff.mp hflag))

/-- **The named module** of an entry comes to what the entry configures by it. -/
theorem settles_newer (base : Option String) (entry : Members) :
    Settles (if namesModule entry then List.singleton <$> moduleDescriptor base entry else .ok [])
      (Newer base entry) (NewerFault entry) := by
  -- from here on a `null` and a missing member are one case
  rw [newer_eq]
  cases hgiven : given? entry moduleKey with
  | none =>
    refine Settles.of_ok ?_ ?_
    · intro ds
      constructor
      · intro h
        cases h with
        | absent => rfl
        | named h => exact nomatch hgiven.symm.trans h
      · rintro rfl
        exact .absent hgiven
    · intro reason hfault
      exact hfault.found hgiven
  | some value =>
    cases value with
    | string specifier =>
      -- the import is read first, the kind behind it
      have hread := (settles_import entry).bind fun imported _ =>
        (settles_kind entry).bind_ok fun declared =>
          [namedDescriptor base entry specifier imported declared]
      refine hread.congr ?_ ?_
      · intro ds
        constructor
        · rintro ⟨imported, himport, declared, hdeclared, hds⟩
          exact (newer_iff hgiven himport hdeclared).mpr hds
        · intro hnewer
          cases hnewer with
          | absent h => exact nomatch hgiven.symm.trans h
          | named h hmodule himport hdeclared hmarked hunmarked hphase hemit hconfig =>
            refine ⟨_, himport, _, hdeclared, (newer_iff hgiven himport hdeclared).mp ?_⟩
            exact .named h hmodule himport hdeclared hmarked hunmarked hphase hemit hconfig
      · intro reason
        constructor
        · rintro (⟨⟨value, himport, hvalue⟩, rfl⟩ | ⟨imported, himport, hkind⟩)
          · exact .notImport hgiven himport hvalue
          · rcases hkind with ⟨name, htype, hname, rfl⟩ | ⟨⟨value, htype, hvalue⟩, rfl⟩
            · exact .unknownKind hgiven himport htype hname
            · exact .notKind hgiven himport htype hvalue
        · intro hfault
          cases hfault with
          | notPath h hvalue =>
            obtain rfl := Option.some.inj (hgiven.symm.trans h)
            exact nomatch hvalue
          | notImport _ himport hvalue => exact .inl ⟨⟨_, himport, hvalue⟩, rfl⟩
          | unknownKind _ himport htype hname =>
            exact .inr ⟨_, himport, .inl ⟨_, htype, hname, rfl⟩⟩
          | notKind _ himport htype hvalue =>
            exact .inr ⟨_, himport, .inr ⟨⟨_, htype, hvalue⟩, rfl⟩⟩
    | _ =>
      refine Settles.of_error ?_ ?_
      · intro ds h
        cases h with
        | absent h => exact nomatch hgiven.symm.trans h
        | named h => exact nomatch hgiven.symm.trans h
      · intro reason
        constructor
        · intro hfault
          cases hfault with
          | notPath => rfl
          | notImport h => exact nomatch hgiven.symm.trans h
          | unknownKind h => exact nomatch hgiven.symm.trans h
          | notKind h => exact nomatch hgiven.symm.trans h
        · rintro rfl
          exact .notPath hgiven rfl

/-- **An entry** comes to what it configures, and cannot be read for the reason for which it is
malformed. -/
theorem settles_descriptors (base : Option String) (entry : Json) :
    Settles (descriptors base entry) (Configures base entry) (Malformed entry) := by
  cases entry with
  | object members =>
    rw [descriptors_object]
    have hread := (settles_older base members).bind fun older _ =>
      (settles_newer base members).bind_ok fun newer => older ++ newer
    refine hread.congr ?_ ?_
    · intro ds
      constructor
      · rintro ⟨older, holder, newer, hnewer, rfl⟩
        exact .object holder hnewer
      · intro hconfigures
        cases hconfigures with
        | object holder hnewer => exact ⟨_, holder, _, hnewer, rfl⟩
        | other h => exact nomatch h
    · intro reason
      have hsound := (settles_older base members).exists_right_iff
      constructor
      · rintro (hfault | ⟨older, holder, hfault⟩)
        · exact .older hfault
        · exact .newer (hsound.mp ⟨older, holder⟩) hfault
      · intro hmalformed
        cases hmalformed with
        | older h => exact .inl h
        | newer hnone h =>
          obtain ⟨older, holder⟩ := hsound.mpr hnone
          exact .inr ⟨older, holder, h⟩
  | _ =>
    refine Settles.of_ok ?_ ?_
    · intro ds
      constructor
      · intro h
        cases h with
        | other => rfl
      · rintro rfl
        exact .other rfl
    · intro reason h
      exact nomatch h

end Reading

end PluginEntry

end TransformerEngine
