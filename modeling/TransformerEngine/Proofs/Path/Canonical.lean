import TransformerEngine.Proofs.Path.Location

/-!
# Paths from the root

A path that starts at the root leads down from there along names. It is followed part by part
like any other path, but there is nothing above the root: a step up from it stays where it is.
So the names are all that counts (`fromRoot`), and they are the names of the path's `Location`,
whatever its steps up (`fromRoot_eq`).

Normalizing such a path is judged by the usual three facts about a normal form, which is
described on its own and not through `normalize`:

* `fromRoot_normalize`: the normalized path leads to the same place;
* `isCanonical_normalize`: it is the root with names behind it, one slash between each two, and
  at most the first of them is `..` (`IsCanonical`);
* `IsCanonical.normalize_eq`: a path of that form is left as it is.

The `..` in front is what remains of an odd number of steps up from the root. It is harmless
here, as one step up from the root is none; the same `..` is what leads a relative path astray
(`resolveSpecifier_location`). `resolveSpecifier_from_root` says all of this of module paths.
-/

namespace TransformerEngine

namespace Path

/-! ### Places below the root -/

/-- One part further down from the root. A step up from the root stays there. -/
def descend (names : List String) (part : String) : List String :=
  if part = ".." then names.tail else part :: names

/-- Where a path leads from the root: the names on the way down, the last one first. -/
def fromRoot (path : String) : List String := (components path).foldl descend []

section FromRoot

variable {location : Location}

/-- The names of a location are found without its steps up. -/
theorem names_step (location : Location) (part : String) :
    (location.step part).names = descend location.names part := by
  obtain ⟨up, names⟩ := location
  by_cases h : part = ".."
  · unfold Location.step descend
    rw [if_pos h, if_pos h]
    cases names with
    | nil => rfl
    | cons name before => rfl
  · unfold Location.step descend
    rw [if_neg h, if_neg h]

theorem names_follow (location : Location) (path : String) :
    (location.follow path).names = (components path).foldl descend location.names := by
  unfold Location.follow
  generalize components path = parts
  induction parts generalizing location with
  | nil => rfl
  | cons part rest ih =>
    rw [List.foldl_cons, List.foldl_cons, ih (location.step part), names_step]

/-- From the root, a path leads along the names of its location. -/
theorem fromRoot_eq (path : String) : fromRoot path = (Location.follow {} path).names :=
  (names_follow {} path).symm

/-- A path that is read behind another leads on from where that one leads. -/
theorem fromRoot_append (directory path : String) :
    fromRoot (directory ++ "/" ++ path) = (components path).foldl descend (fromRoot directory) := by
  have htext : (directory ++ "/" ++ path).toList = directory.toList ++ '/' :: path.toList := by
    rw [String.toList_append, String.toList_append, List.append_assoc]
    rfl
  unfold fromRoot
  rw [components_of_toList htext, List.foldl_append]

end FromRoot

/-! ### Canonical paths -/

/-- The path is the root with names behind it, one slash between each two of them. None of the
names is empty or `.`, and at most the first is `..`. -/
def IsCanonical (path : String) : Prop :=
  ∃ names, path = "/" ++ String.intercalate "/" names ∧ (∀ name ∈ names, IsPart name) ∧
    ".." ∉ names.tail

theorem isAbsolute_append {path : String} (h : isAbsolute path = true) (more : String) :
    isAbsolute (path ++ more) = true := by
  have hsome : path ≠ "" := by
    rintro rfl
    exact Bool.false_ne_true h
  rw [isAbsolute_of_toList (String.toList_append ..) hsome]
  exact h

/-- A path that is read behind an absolute directory is absolute. -/
theorem isAbsolute_join_root {directory path : String} (hdirectory : isAbsolute directory = true)
    (h : isAbsolute path = false) : isAbsolute (join directory path) = true := by
  unfold join
  rw [if_neg (by rw [h]; exact Bool.false_ne_true)]
  split
  · exact isAbsolute_append hdirectory path
  · exact isAbsolute_append (isAbsolute_append hdirectory "/") path

theorem IsCanonical.isAbsolute {path : String} (h : IsCanonical path) : isAbsolute path = true := by
  obtain ⟨names, rfl, -⟩ := h
  exact isAbsolute_append (by decide) _

/-- The names that a path from the root was written from are its parts. -/
theorem components_ofNames_root {names : List String} (h : ∀ name ∈ names, IsPart name) :
    components (ofNames true names) = names := by
  have htext : (ofNames true names).toList = "".toList ++ '/' :: (ofNames false names).toList := by
    unfold ofNames
    rw [if_pos rfl, if_neg Bool.false_ne_true, String.empty_append, String.toList_append]
    rfl
  calc components (ofNames true names)
      = components "" ++ components (ofNames false names) := components_of_toList htext
    _ = components "" ++ names := by rw [components_ofNames h]
    _ = names := rfl

/-- Names without `..` are kept one after the other. -/
theorem foldl_push_of_names (kept : List String) {names : List String} (h : ".." ∉ names) :
    names.foldl push kept = names.reverse ++ kept := by
  induction names generalizing kept with
  | nil => rfl
  | cons name rest ih =>
    have hname : name ≠ ".." := (List.ne_of_not_mem_cons h).symm
    have hrest : ".." ∉ rest := List.not_mem_of_not_mem_cons h
    have hkept : push kept name = name :: kept := if_neg hname
    rw [List.foldl_cons, hkept, ih (name :: kept) hrest, List.reverse_cons, List.append_assoc]
    rfl

/-- **Canonical paths are left as they are.** -/
theorem IsCanonical.normalize_eq {path : String} (h : IsCanonical path) :
    normalize path = path := by
  have habsolute := h.isAbsolute
  obtain ⟨names, hpath, hparts, hup⟩ := h
  -- the path is written as `normalize` writes paths
  have hwritten : path = ofNames true names := hpath
  have hkept : names.foldl push [] = names.reverse := by
    cases names with
    | nil => rfl
    | cons first rest =>
      -- the first name is kept as it is, a `..` too, since nothing is in front of it
      have hfirst : push [] first = [first] := by
        unfold push
        split
        · next heq => rw [heq]
        · rfl
      have hrest : rest.foldl push [first] = rest.reverse ++ [first] :=
        foldl_push_of_names [first] hup
      rw [List.foldl_cons, hfirst, hrest, List.reverse_cons]
  calc normalize path
      = ofNames true ((components path).foldl push []).reverse := by
        rw [normalize, habsolute]
    _ = ofNames true (names.foldl push []).reverse := by
        rw [hwritten, components_ofNames_root hparts]
    _ = ofNames true names := by rw [hkept, List.reverse_reverse]
    _ = path := hwritten.symm

/-! ### Normalizing from the root -/

section Normalize

variable {path : String}

/-- A folded location is written with its names behind one `..` or none. -/
theorem reverse_written_folded (location : Location) :
    location.folded.written.reverse =
      (if location.up % 2 = 1 then [".."] else []) ++ location.names.reverse := by
  have hwritten : location.folded.written.reverse =
      List.replicate (location.up % 2) ".." ++ location.names.reverse := by
    rw [← List.reverse_replicate, ← List.reverse_append]
    rfl
  rw [hwritten]
  rcases Nat.mod_two_eq_zero_or_one location.up with heven | hodd
  · rw [heven]
    rfl
  · rw [hodd]
    rfl

/-- Nowhere along a path is a name that is no part of a path. -/
theorem proper_follow (path : String) : (Location.follow {} path).folded.Proper := by
  have hhere : Location.Proper {} := fun _ hname => absurd hname List.not_mem_nil
  exact hhere.follow path

/-- The parts of the normalized path are those that its location is written with. -/
theorem isPart_of_mem_written_follow (path : String) :
    ∀ part ∈ (Location.follow {} path).folded.written.reverse, IsPart part :=
  fun _ hpart => isPart_of_mem_written (proper_follow path) (List.mem_reverse.mp hpart)

/-- The normalized path is what the location of the path is written as, folded. -/
theorem normalize_eq (path : String) :
    normalize path =
      ofNames (isAbsolute path) (Location.follow {} path).folded.written.reverse := by
  rw [normalize, ← foldl_push]
  rfl

/-- **Normalized paths are canonical.** -/
theorem isCanonical_normalize (h : isAbsolute path = true) : IsCanonical (normalize path) := by
  have hproper := proper_follow path
  have hnames : ".." ∉ (Location.follow {} path).names.reverse := by
    intro hmem
    exact (hproper ".." (List.mem_reverse.mp hmem)).2 rfl
  refine ⟨(Location.follow {} path).folded.written.reverse, ?_, ?_, ?_⟩
  · rw [normalize_eq, h]
    rfl
  · exact isPart_of_mem_written_follow path
  · rw [reverse_written_folded]
    -- behind the one `..` that there may be, all are names
    split
    · exact hnames
    · exact fun hmem => hnames (List.mem_of_mem_tail hmem)

/-- **A normalized path leads to the same place.** -/
theorem fromRoot_normalize (h : isAbsolute path = true) :
    fromRoot (normalize path) = fromRoot path := by
  have hparts := isPart_of_mem_written_follow path
  -- the root in front makes no difference to the parts, and so none to the location
  have hsame : components (normalize path) =
      components (ofNames false (Location.follow {} path).folded.written.reverse) := by
    rw [normalize_eq, h, components_ofNames_root hparts, components_ofNames hparts]
  have hfollow : Location.follow {} (normalize path) = (Location.follow {} path).folded := calc
    Location.follow {} (normalize path)
      = Location.follow {} (ofNames false (Location.follow {} path).folded.written.reverse) :=
        congrArg (List.foldl Location.step {}) hsame
    _ = (Location.follow {} path).folded := follow_ofNames (proper_follow path)
  rw [fromRoot_eq, hfollow, fromRoot_eq]
  rfl

end Normalize

end Path

/-- A module path that says where to start from is resolved against a directory. -/
theorem resolveSpecifier_relative {specifier : String} (h : isRelativeSpecifier specifier = true)
    (directory : String) :
    resolveSpecifier specifier (some directory) =
      Path.normalize (Path.join directory specifier) := by
  show (if isRelativeSpecifier specifier = true then _ else _) = _
  rw [if_pos h]
  rfl

/-- **Module paths from a directory below the root.** A module path that starts with `./` or
`../` and is resolved against an absolute directory comes to an absolute path. It leads where the
directory with the module path behind it leads, where a step up from the root stays at the root.
It consists of the root and names, one slash between each two of them, none of which is empty or
`.`, and of which at most the first is `..`. Normalized once more, it stays as it is. -/
theorem resolveSpecifier_from_root {directory specifier : String}
    (hdirectory : Path.isAbsolute directory = true)
    (h : isRelativeSpecifier specifier = true) :
    let resolved := resolveSpecifier specifier (some directory)
    Path.isAbsolute resolved = true ∧
    Path.fromRoot resolved = Path.fromRoot (directory ++ "/" ++ specifier) ∧
    (∃ names, resolved = "/" ++ String.intercalate "/" names ∧
      (∀ name ∈ names, Path.IsPart name) ∧ ".." ∉ names.tail) ∧
    Path.normalize resolved = resolved := by
  intro resolved
  have hrelative := isAbsolute_of_isRelativeSpecifier h
  have hresolved : resolved = Path.normalize (Path.join directory specifier) :=
    resolveSpecifier_relative h directory
  have habsolute := Path.isAbsolute_join_root hdirectory hrelative
  have hcanonical : Path.IsCanonical resolved := hresolved ▸ Path.isCanonical_normalize habsolute
  refine ⟨hcanonical.isAbsolute, ?_, hcanonical, hcanonical.normalize_eq⟩
  calc Path.fromRoot resolved
      = Path.fromRoot (Path.join directory specifier) := by
        rw [hresolved, Path.fromRoot_normalize habsolute]
    _ = (Path.components specifier).foldl Path.descend (Path.fromRoot directory) := by
        unfold Path.fromRoot
        rw [Path.components_join hrelative, List.foldl_append]
    _ = Path.fromRoot (directory ++ "/" ++ specifier) := (Path.fromRoot_append ..).symm

/-- From `a/b` below the root, the first two of three steps up lead to the root and the third
stays there; so does the one that takes `x` back. A `..` remains in front of the name. -/
theorem resolveSpecifier_from_root_sample :
    Path.isAbsolute "/a//b/" = true ∧
    isRelativeSpecifier "../../../x/./..//y/" = true ∧
    resolveSpecifier "../../../x/./..//y/" (some "/a//b/") = "/../y" ∧
    Path.fromRoot "/../y" = ["y"] ∧
    Path.fromRoot ("/a//b/" ++ "/" ++ "../../../x/./..//y/") = ["y"] ∧
    Path.normalize "/../y" = "/../y" := by
  have hdirectory : Path.isAbsolute "/a//b/" = true := by decide
  have hrelative : isRelativeSpecifier "../../../x/./..//y/" = true := by decide
  have hresolved : resolveSpecifier "../../../x/./..//y/" (some "/a//b/") = "/../y" := by decide
  have hplace : Path.fromRoot "/../y" = ["y"] := by decide
  obtain ⟨-, hsame, -, hagain⟩ := resolveSpecifier_from_root hdirectory hrelative
  rw [hresolved] at hsame hagain
  exact ⟨hdirectory, hrelative, hresolved, hplace, hsame ▸ hplace, hagain⟩

end TransformerEngine
