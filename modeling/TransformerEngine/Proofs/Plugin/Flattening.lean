import TransformerEngine.Proofs.Plugin.Reading

/-!
# An array entry by entry

What a `plugins` array comes to, in terms of what its entries mean. An array that has no
malformed entry configures what its entries configure, one after the other; otherwise the first
malformed entry is the error, with its place and its reason (`array_read_entry_by_entry`).

Two laws of arrays follow from how far a place in an array matters, which is only in errors
(`descriptorsFrom_later`):

* an array behind another is read as on its own, with its errors so much later
  (`ofEntries_append`);
* entries that have nothing to do with transforms may stand anywhere, and only the places in
  errors tell (`Padded.ofEntries_unplaced`).
-/

namespace TransformerEngine

namespace PluginError

/-- The error where so many entries stand in front of the array. -/
def later (error : PluginError) (places : Nat) : PluginError :=
  match error with
  | malformedEntry index reason => malformedEntry (index + places) reason
  | other => other

/-- The error without the place at which an entry is malformed. -/
def unplaced : PluginError → PluginError
  | malformedEntry _ reason => malformedEntry 0 reason
  | other => other

end PluginError

namespace PluginEntry

variable {base : Option String}

/-! ### Places -/

/-- The entries behind the first are read as if they stood by themselves. -/
theorem descriptorsFrom_cons (base : Option String) (index : Nat) (entry : Json)
    (rest : List Json) :
    descriptorsFrom base index (entry :: rest) =
      ((descriptors base entry).mapError (.malformedEntry index)) >>= fun own =>
        descriptorsFrom base (index + 1) rest >>= fun others => .ok (own ++ others) := by
  rw [descriptorsFrom]
  cases descriptors base entry with
  | error reason => rfl
  | ok own => rfl

/-- **Places matter only in errors.** Entries that stand further behind configure the same, and
the place of an error is as much further behind. -/
theorem descriptorsFrom_later (base : Option String) (index places : Nat)
    (entries : List Json) :
    descriptorsFrom base (index + places) entries =
      (descriptorsFrom base index entries).mapError (·.later places) := by
  -- the entries behind the first are one place further in both readings
  induction entries generalizing index with
  | nil => rfl
  | cons entry rest ih =>
    have hrest := ih (index + 1)
    rw [Nat.add_right_comm] at hrest
    rw [descriptorsFrom_cons, descriptorsFrom_cons, hrest]
    cases descriptors base entry with
    | error reason => rfl
    | ok own =>
      cases descriptorsFrom base (index + 1) rest with
      | error error => rfl
      | ok others => rfl

/-- Entries behind others are read once those could be read. -/
theorem descriptorsFrom_append (base : Option String) (index : Nat) (first second : List Json) :
    descriptorsFrom base index (first ++ second) =
      descriptorsFrom base index first >>= fun ds =>
        descriptorsFrom base (index + first.length) second >>= fun others =>
          .ok (ds ++ others) := by
  induction first generalizing index with
  | nil =>
    show descriptorsFrom base index second =
      descriptorsFrom base (index + 0) second >>= fun others => .ok others
    rw [Nat.add_zero]
    cases descriptorsFrom base index second with
    | error error => rfl
    | ok others => rfl
  | cons entry rest ih =>
    have hlength : index + (entry :: rest).length = index + 1 + rest.length := by
      rw [List.length_cons]
      omega
    rw [List.cons_append, descriptorsFrom_cons, descriptorsFrom_cons, ih, hlength]
    cases descriptors base entry with
    | error reason => rfl
    | ok own =>
      cases descriptorsFrom base (index + 1) rest with
      | error error => rfl
      | ok ds =>
        cases descriptorsFrom base (index + 1 + rest.length) second with
        | error error => rfl
        | ok others =>
          show Except.ok (own ++ (ds ++ others)) = Except.ok (own ++ ds ++ others)
          rw [List.append_assoc]

/-! ### Entries for others -/

/-- The second array is the first with entries put in that have nothing to do with transforms,
any number of them and anywhere. -/
inductive Padded : List Json → List Json → Prop
  | nil : Padded [] []
  | keep (entry : Json) {entries padded : List Json} (h : Padded entries padded) :
      Padded (entry :: entries) (entry :: padded)
  | pad {entry : Json} (hentry : Unrelated entry) {entries padded : List Json}
      (h : Padded entries padded) : Padded entries (entry :: padded)

/-- What is put in moves the places of errors, and changes nothing else. -/
theorem Padded.descriptorsFrom_unplaced {entries padded : List Json} (h : Padded entries padded)
    (base : Option String) (index index' : Nat) :
    (descriptorsFrom base index padded).mapError PluginError.unplaced =
      (descriptorsFrom base index' entries).mapError PluginError.unplaced := by
  -- the two readings are at different places as soon as something was put in
  induction h generalizing index index' with
  | nil => rfl
  | @keep entry entries padded _ ih =>
    have hrest := ih (index + 1) (index' + 1)
    rw [descriptorsFrom_cons, descriptorsFrom_cons]
    cases descriptors base entry with
    | error reason => rfl
    | ok own =>
      -- both go on with the same entries behind it
      have hbind : ∀ found : Except PluginError (List PluginDescriptor),
          (found >>= fun others => Except.ok (own ++ others)).mapError PluginError.unplaced =
            found.mapError PluginError.unplaced >>= fun others => .ok (own ++ others) := by
        intro found
        cases found with
        | error error => rfl
        | ok others => rfl
      show (descriptorsFrom base (index + 1) padded >>= fun others =>
          Except.ok (own ++ others)).mapError PluginError.unplaced =
        (descriptorsFrom base (index' + 1) entries >>= fun others =>
          Except.ok (own ++ others)).mapError PluginError.unplaced
      rw [hbind, hbind, hrest]
  | @pad entry hentry entries padded _ ih =>
    rw [descriptorsFrom_cons, descriptors_of_unrelated hentry, ← ih (index + 1) index']
    show (descriptorsFrom base (index + 1) padded >>= fun others =>
        Except.ok ([] ++ others)).mapError PluginError.unplaced = _
    cases descriptorsFrom base (index + 1) padded with
    | error error => rfl
    | ok others => rfl

end PluginEntry

open PluginEntry

variable {entries : List Json} {base : Option String}

/-- **Arrays one behind the other.** The second is read once the first could be, and its errors
are as much later as the first is long. -/
theorem ofEntries_append (first second : List Json) (base : Option String) :
    PluginDescriptor.ofEntries (first ++ second) base =
      PluginDescriptor.ofEntries first base >>= fun ds =>
        (PluginDescriptor.ofEntries second base).mapError (·.later first.length) >>= fun others =>
          .ok (ds ++ others) := by
  unfold PluginDescriptor.ofEntries
  rw [descriptorsFrom_append, descriptorsFrom_later]

/-! ### Arrays and what their entries mean -/

/-- An array configures what its entries configure, in order. -/
theorem ofEntries_eq_ok_iff {ds : List PluginDescriptor} :
    PluginDescriptor.ofEntries entries base = .ok ds ↔
      ∃ parts, List.Forall₂ (Configures base) entries parts ∧ ds = parts.flatten := by
  have hentry : (fun entry own => descriptors base entry = .ok own) = Configures base := by
    funext entry own
    exact propext ((settles_descriptors base entry).ok own)
  rw [ofEntries_eq_ok, hentry]

/-- An array that has malformed entries comes to an error about the first. -/
theorem ofEntries_eq_error_iff {error : PluginError} :
    PluginDescriptor.ofEntries entries base = .error error ↔
      ∃ before entry after reason, entries = before ++ entry :: after ∧
        (∀ e ∈ before, ∀ r, ¬Malformed e r) ∧ Malformed entry reason ∧
        error = .malformedEntry before.length reason := by
  have hsound : ∀ e, (∃ own, descriptors base e = .ok own) ↔ ∀ r, ¬Malformed e r := by
    intro e
    have hsettled := settles_descriptors base e
    rw [← hsettled.exists_right_iff]
    exact exists_congr hsettled.ok
  rw [ofEntries_eq_error]
  simp only [hsound, (settles_descriptors base _).error]

/-- An array can be read if and only if none of its entries is malformed. -/
theorem exists_ofEntries_iff :
    (∃ ds, PluginDescriptor.ofEntries entries base = .ok ds) ↔
      ∀ entry ∈ entries, ∀ reason, ¬Malformed entry reason := by
  constructor
  · rintro ⟨ds, hds⟩ entry hentry reason hmalformed
    have hread := ((settles_descriptors base entry).error reason).mpr hmalformed
    obtain ⟨error, herror⟩ := exists_error_of_malformed hentry hread
    exact nomatch hds.symm.trans herror
  · intro hsound
    cases hread : PluginDescriptor.ofEntries entries base with
    | ok ds => exact ⟨ds, rfl⟩
    | error error =>
      obtain ⟨before, entry, after, reason, rfl, -, hmalformed, -⟩ :=
        ofEntries_eq_error_iff.mp hread
      exact absurd hmalformed (hsound entry (by simp) reason)

theorem PluginEntry.Padded.ofEntries_unplaced {padded : List Json} (h : Padded entries padded)
    (base : Option String) :
    (PluginDescriptor.ofEntries padded base).mapError PluginError.unplaced =
      (PluginDescriptor.ofEntries entries base).mapError PluginError.unplaced :=
  h.descriptorsFrom_unplaced base 0 0

namespace Sample

/-- An entry in both forms. It marks its module, which would have another kind otherwise. -/
def mixedEntry : Json := .object [
  ("transform", .string "../m"),
  ("customTransformers", .object [("after", .array [.string "c"]),
    ("before", .array [.string "./a", .string "b"])]),
  ("type", .string "config"), ("import", .null), ("beforeEmit", .bool true),
  ("after", .bool true)]

/-- An entry that is wrong in both forms. -/
def doublyFaultyEntry : Json := .object [
  ("transform", .int 7), ("customTransformers", .object [("before", .array [.int 1])])]

def unrelatedEntry : Json := .object [("name", .string "lint"), ("transform", .null)]

/-- What `mixedEntry` configures in a configuration file below `/p`. -/
def mixedDescriptors : List PluginDescriptor := [
  { module := "/p/a", config := mixedEntry },
  { module := "b", config := mixedEntry },
  { module := "c", phase := .after, config := mixedEntry },
  { module := "/m", kind := .program, phase := .after, beforeEmit := true, config := mixedEntry }]

end Sample

/-- **An array is read entry by entry.** It can be read if and only if none of its entries is
malformed, and then it configures what its entries configure, in order. If some are malformed,
the error has the place of the first of them and tells what is wrong with it. An array behind
another is read as on its own, with its errors as much later as the other is long, unless the
other has an error. And entries that have nothing to do with transforms can be put in anywhere:
nothing changes but the places in errors. -/
theorem array_read_entry_by_entry (entries : List Json) (base : Option String) :
    ((∃ ds, PluginDescriptor.ofEntries entries base = .ok ds) ↔
      ∀ entry ∈ entries, ∀ reason, ¬Malformed entry reason) ∧
    (∀ ds, PluginDescriptor.ofEntries entries base = .ok ds ↔
      ∃ parts, List.Forall₂ (Configures base) entries parts ∧ ds = parts.flatten) ∧
    (∀ error, PluginDescriptor.ofEntries entries base = .error error ↔
      ∃ before entry after reason, entries = before ++ entry :: after ∧
        (∀ e ∈ before, ∀ r, ¬Malformed e r) ∧ Malformed entry reason ∧
        error = .malformedEntry before.length reason) ∧
    (∀ more, PluginDescriptor.ofEntries (entries ++ more) base =
      PluginDescriptor.ofEntries entries base >>= fun ds =>
        (PluginDescriptor.ofEntries more base).mapError (·.later entries.length) >>= fun others =>
          .ok (ds ++ others)) ∧
    (∀ padded, Padded entries padded →
      (PluginDescriptor.ofEntries padded base).mapError PluginError.unplaced =
        (PluginDescriptor.ofEntries entries base).mapError PluginError.unplaced) := by
  refine ⟨exists_ofEntries_iff, fun ds => ofEntries_eq_ok_iff,
    fun error => ofEntries_eq_error_iff, ?_, ?_⟩
  · intro more
    exact ofEntries_append entries more base
  · intro padded hpadded
    exact hpadded.ofEntries_unplaced base

/-- The groups come in front of the module, whatever comes first in the entry, and so does what
is wrong with them. An entry for others in front moves the place of the error and nothing
else. -/
theorem array_read_entry_by_entry_sample :
    PluginDescriptor.ofEntries [Sample.mixedEntry] (some "/p") = .ok Sample.mixedDescriptors ∧
    Padded [Sample.mixedEntry, Sample.doublyFaultyEntry]
      [Sample.unrelatedEntry, Sample.mixedEntry, Sample.doublyFaultyEntry] ∧
    PluginDescriptor.ofEntries [Sample.mixedEntry, Sample.doublyFaultyEntry] (some "/p") =
      .error (.malformedEntry 1 "`customTransformers.before` entries must be strings") ∧
    (PluginDescriptor.ofEntries
        [Sample.unrelatedEntry, Sample.mixedEntry, Sample.doublyFaultyEntry] (some "/p")).mapError
        PluginError.unplaced =
      .error (.malformedEntry 0 "`customTransformers.before` entries must be strings") := by
  have hunrelated : Unrelated Sample.unrelatedEntry := ⟨rfl, .inr rfl⟩
  have hpadded : Padded [Sample.mixedEntry, Sample.doublyFaultyEntry]
      [Sample.unrelatedEntry, Sample.mixedEntry, Sample.doublyFaultyEntry] :=
    .pad hunrelated (.keep _ (.keep _ .nil))
  have hfault : Malformed Sample.doublyFaultyEntry
      "`customTransformers.before` entries must be strings" :=
    .older (.before rfl (.notPath rfl List.mem_cons_self rfl))
  have hmixed : PluginDescriptor.ofEntries [Sample.mixedEntry] (some "/p") =
      .ok Sample.mixedDescriptors := rfl
  obtain ⟨hreads, -⟩ := array_read_entry_by_entry [Sample.mixedEntry] (some "/p")
  obtain ⟨-, -, herror, -, hinserted⟩ := array_read_entry_by_entry
    [Sample.mixedEntry, Sample.doublyFaultyEntry] (some "/p")
  have hresult := (herror _).mpr ⟨[Sample.mixedEntry], Sample.doublyFaultyEntry, [], _, rfl,
    hreads.mp ⟨_, hmixed⟩, hfault, rfl⟩
  refine ⟨hmixed, hpadded, hresult, ?_⟩
  rw [hinserted _ hpadded, hresult]
  rfl

end TransformerEngine
