import Mathlib.Data.List.Forall2
import TransformerEngine.Plugin.Entry

/-!
# What a `plugins` array configures

The entries of an array are read in order. Either each of them can be read, and the array
configures what its entries configure, one after the other (`ofEntries_eq_ok`); or there
is a first one that cannot be, and the error is about it (`ofEntries_eq_error`). Whatever
an entry configures keeps the entry itself as its configuration
(`config_of_mem_descriptors`).
-/

namespace TransformerEngine

namespace PluginEntry

/-- The second part of a reading sees what the first part came to. -/
theorem bind_eq_ok {ε α β : Type} {x : Except ε α} {f : α → Except ε β} {b : β} :
    (x >>= f) = .ok b ↔ ∃ a, x = .ok a ∧ f a = .ok b := by
  cases x with
  | error error => exact iff_of_false (nomatch ·) (fun ⟨_, h, _⟩ => nomatch h)
  | ok a => exact ⟨fun h => ⟨a, rfl, h⟩, fun ⟨_, h, h'⟩ => Except.ok.inj h ▸ h'⟩

variable {base : Option String}

/-! ### The entry stays with what it configures -/

section Config

variable {entry : Members} {d : PluginDescriptor} {own : List PluginDescriptor}

theorem config_groupPath {key : String} {phase : Phase} {path : Json}
    (h : groupPath base entry key phase path = .ok d) : d.config = .object entry := by
  cases path with
  | string specifier => rw [← Except.ok.inj h]
  | _ => exact nomatch h

theorem config_mapM_groupPath {key : String} {phase : Phase} {paths : List Json}
    (h : paths.mapM (groupPath base entry key phase) = .ok own) :
    ∀ d ∈ own, d.config = .object entry := by
  induction paths generalizing own with
  | nil =>
    rw [← Except.ok.inj h]
    exact fun _ hd => absurd hd List.not_mem_nil
  | cons path paths ih =>
    rw [List.mapM_cons, bind_eq_ok] at h
    obtain ⟨first, hfirst, h⟩ := h
    obtain ⟨others, hothers, h⟩ := bind_eq_ok.mp h
    rw [← Except.ok.inj h]
    exact List.forall_mem_cons.mpr ⟨config_groupPath hfirst, ih hothers⟩

theorem config_group {groups : Members} {phase : Phase}
    (h : group base entry groups phase = .ok own) : ∀ d ∈ own, d.config = .object entry := by
  unfold group at h
  split at h
  · rw [← Except.ok.inj h]
    exact fun _ hd => absurd hd List.not_mem_nil
  · exact config_mapM_groupPath h
  · exact nomatch h

theorem config_groupDescriptors (h : groupDescriptors base entry = .ok own) :
    ∀ d ∈ own, d.config = .object entry := by
  unfold groupDescriptors at h
  split at h
  · obtain ⟨before, hbefore, h⟩ := bind_eq_ok.mp h
    obtain ⟨after, hafter, h⟩ := bind_eq_ok.mp h
    rw [← Except.ok.inj h]
    exact List.forall_mem_append.mpr ⟨config_group hbefore, config_group hafter⟩
  · exact nomatch h

theorem config_moduleDescriptor (h : moduleDescriptor base entry = .ok d) :
    d.config = .object entry := by
  unfold moduleDescriptor at h
  split at h
  · obtain ⟨_, -, h⟩ := bind_eq_ok.mp h
    obtain ⟨_, -, h⟩ := bind_eq_ok.mp h
    rw [← Except.ok.inj h]
  · exact nomatch h

end Config

/-- What the two forms of an object configure, the older one first. -/
theorem descriptors_object (members : Members) :
    descriptors base (.object members) =
      (if hasGroups members then groupDescriptors base members else .ok []) >>= fun grouped =>
      (if namesModule members then List.singleton <$> moduleDescriptor base members
        else .ok []) >>= fun named => .ok (grouped ++ named) := by
  simp only [descriptors]
  cases hasGroups members <;> cases namesModule members <;> rfl

/-- **The entry stays with what it configures.** -/
theorem config_of_mem_descriptors {entry : Json} {own : List PluginDescriptor}
    (h : descriptors base entry = .ok own) : ∀ d ∈ own, d.config = entry := by
  have hnone : ∀ d ∈ ([] : List PluginDescriptor), d.config = entry :=
    fun _ hd => absurd hd List.not_mem_nil
  cases entry with
  | object members =>
    rw [descriptors_object, bind_eq_ok] at h
    obtain ⟨grouped, hgrouped, h⟩ := h
    obtain ⟨named, hnamed, h⟩ := bind_eq_ok.mp h
    rw [← Except.ok.inj h]
    refine List.forall_mem_append.mpr ⟨?_, ?_⟩
    · split at hgrouped
      · exact config_groupDescriptors hgrouped
      · rwa [← Except.ok.inj hgrouped]
    · split at hnamed
      · cases hd : moduleDescriptor base members with
        | error reason =>
          rw [hd] at hnamed
          exact nomatch hnamed
        | ok d =>
          rw [hd] at hnamed
          rw [← Except.ok.inj hnamed]
          exact List.forall_mem_singleton.mpr (config_moduleDescriptor hd)
      · rwa [← Except.ok.inj hnamed]
  | _ => rwa [← Except.ok.inj h]

/-! ### Entries that configure nothing -/

/-- The entry has nothing to do with transforms: it is no object, or it has no groups in the
older form, and names no module or `null` for one. -/
def Unrelated : Json → Prop
  | .object entry => Entries.find? groupsKey entry = none ∧
      (Entries.find? moduleKey entry = none ∨ Entries.find? moduleKey entry = some .null)
  | _ => True

theorem descriptors_of_unrelated {entry : Json} (h : Unrelated entry) :
    descriptors base entry = .ok [] := by
  cases entry with
  | object members =>
    obtain ⟨hnone, hmodule⟩ := h
    have hgroups : hasGroups members = false := by
      rw [hasGroups, hnone]
      rfl
    have hnames : namesModule members = false := by
      rw [namesModule]
      rcases hmodule with hmodule | hmodule
      · rw [hmodule]
        rfl
      · rw [hmodule]
        rfl
    rw [descriptors_object, hgroups, hnames]
    rfl
  | _ => rfl

/-! ### One entry after the other -/

/-- Entries can be read if and only if each of them can, and then they configure what each
of them configures, in order. -/
theorem descriptorsFrom_eq_ok {index : Nat} {entries : List Json} {ds : List PluginDescriptor} :
    descriptorsFrom base index entries = .ok ds ↔
      ∃ parts, List.Forall₂ (fun entry own => descriptors base entry = .ok own) entries parts ∧
        ds = parts.flatten := by
  induction entries generalizing index ds with
  | nil =>
    rw [descriptorsFrom, Except.ok.injEq]
    constructor
    · rintro rfl
      exact ⟨[], .nil, rfl⟩
    · rintro ⟨parts, hparts, rfl⟩
      rw [List.forall₂_nil_left_iff.mp hparts]
      rfl
  | cons entry rest ih =>
    rw [descriptorsFrom]
    cases hentry : descriptors base entry with
    | error reason =>
      refine iff_of_false (fun h => nomatch h) ?_
      rintro ⟨parts, hparts, -⟩
      obtain ⟨own, _, hown, -, -⟩ := List.forall₂_cons_left_iff.mp hparts
      exact nomatch hentry.symm.trans hown
    | ok own =>
      simp only [bind_eq_ok, ih]
      constructor
      · rintro ⟨_, ⟨parts, hparts, rfl⟩, h⟩
        exact ⟨own :: parts, .cons hentry hparts, (Except.ok.inj h).symm⟩
      · rintro ⟨parts, hparts, rfl⟩
        obtain ⟨own', others, hown, hothers, rfl⟩ := List.forall₂_cons_left_iff.mp hparts
        obtain rfl := Except.ok.inj (hentry.symm.trans hown)
        exact ⟨others.flatten, ⟨others, hothers, rfl⟩, rfl⟩

/-- Entries cannot be read if and only if there is one among them that cannot be read while
all before it can; the error tells its place and what is wrong with it. -/
theorem descriptorsFrom_eq_error {index : Nat} {entries : List Json} {error : PluginError} :
    descriptorsFrom base index entries = .error error ↔
      ∃ before entry after reason, entries = before ++ entry :: after ∧
        (∀ e ∈ before, ∃ own, descriptors base e = .ok own) ∧
        descriptors base entry = .error reason ∧
        error = .malformedEntry (index + before.length) reason := by
  induction entries generalizing index with
  | nil => simp [descriptorsFrom]
  | cons entry rest ih =>
    rw [descriptorsFrom]
    cases hentry : descriptors base entry with
    | error reason =>
      constructor
      · intro h
        exact ⟨[], entry, rest, reason, rfl, fun _ he => absurd he List.not_mem_nil, hentry,
          (Except.error.inj h).symm⟩
      · rintro ⟨before, entry', after, reason', heq, hbefore, hreason, rfl⟩
        cases before with
        | nil =>
          obtain ⟨rfl, rfl⟩ := List.cons.inj heq
          rw [Except.error.inj (hentry.symm.trans hreason)]
          rfl
        | cons first before =>
          -- the first entry cannot be read, so it is not among those that can
          obtain ⟨rfl, -⟩ := List.cons.inj heq
          obtain ⟨own, hown⟩ := hbefore entry (List.mem_cons_self ..)
          exact nomatch hentry.symm.trans hown
    | ok own =>
      have hrest : (do
            let others ← descriptorsFrom base (index + 1) rest
            return own ++ others) = (.error error : Except PluginError (List PluginDescriptor)) ↔
          descriptorsFrom base (index + 1) rest = .error error := by
        cases descriptorsFrom base (index + 1) rest with
        | error e => exact Iff.rfl
        | ok others => exact iff_of_false (nomatch ·) (nomatch ·)
      refine hrest.trans (ih.trans ?_)
      constructor
      · rintro ⟨before, entry', after, reason, rfl, hbefore, hreason, rfl⟩
        refine ⟨entry :: before, entry', after, reason, rfl, ?_, hreason, ?_⟩
        · exact List.forall_mem_cons.mpr ⟨⟨own, hentry⟩, hbefore⟩
        · rw [List.length_cons, Nat.add_assoc, Nat.add_comm 1]
      · rintro ⟨before, entry', after, reason, heq, hbefore, hreason, rfl⟩
        cases before with
        | nil =>
          obtain ⟨rfl, -⟩ := List.cons.inj heq
          exact nomatch hentry.symm.trans hreason
        | cons first before =>
          obtain ⟨rfl, rfl⟩ := List.cons.inj heq
          refine ⟨before, entry', after, reason, rfl, ?_, hreason, ?_⟩
          · exact fun e he => hbefore e (List.mem_cons_of_mem _ he)
          · rw [List.length_cons, Nat.add_assoc, Nat.add_comm 1]

end PluginEntry

variable {entries : List Json} {base : Option String}

/-- **An array that can be read** configures what its entries configure, in order. -/
theorem ofEntries_eq_ok {ds : List PluginDescriptor} :
    PluginDescriptor.ofEntries entries base = .ok ds ↔
      ∃ parts, List.Forall₂ (fun entry own => PluginEntry.descriptors base entry = .ok own)
        entries parts ∧ ds = parts.flatten :=
  PluginEntry.descriptorsFrom_eq_ok

/-- **An array that cannot be read** has a first entry that cannot be, and the error is
about this one. -/
theorem ofEntries_eq_error {error : PluginError} :
    PluginDescriptor.ofEntries entries base = .error error ↔
      ∃ before entry after reason, entries = before ++ entry :: after ∧
        (∀ e ∈ before, ∃ own, PluginEntry.descriptors base e = .ok own) ∧
        PluginEntry.descriptors base entry = .error reason ∧
        error = .malformedEntry before.length reason := by
  rw [PluginDescriptor.ofEntries, PluginEntry.descriptorsFrom_eq_error]
  simp only [Nat.zero_add]

/-- One entry that cannot be read is enough, wherever it stands. -/
theorem exists_error_of_malformed {entry : Json} {reason : String} (hentry : entry ∈ entries)
    (h : PluginEntry.descriptors base entry = .error reason) :
    ∃ error, PluginDescriptor.ofEntries entries base = .error error := by
  cases hread : PluginDescriptor.ofEntries entries base with
  | error error => exact ⟨error, rfl⟩
  | ok ds =>
    obtain ⟨parts, hparts, -⟩ := ofEntries_eq_ok.mp hread
    -- then every entry could be read, this one too
    have hall : ∀ e ∈ entries, ∃ own, PluginEntry.descriptors base e = .ok own := by
      clear hread hentry
      induction hparts with
      | nil => exact fun _ he => absurd he List.not_mem_nil
      | cons hown _ ih => exact List.forall_mem_cons.mpr ⟨⟨_, hown⟩, ih⟩
    obtain ⟨own, hown⟩ := hall entry hentry
    exact nomatch h.symm.trans hown

end TransformerEngine
