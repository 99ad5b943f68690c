import TransformerEngine.Plugin.Entry

/-!
# Where paths lead

A relative path leads some steps up from where one stands, and from there down along names:
this is its `Location`. It is found by following the path part by part. A name leads one step
down; `..` takes the last name back, or leads one step up where there is none.

Resolving a path follows the same parts with a list of names alone, in which a step up stands
as `..` behind the names. Two facts relate the two:

* `push_written`: after each part, the list is what the location so far is written as, but of
  the steps up it has only whether their number is odd. For the `..` of one step up is taken
  back like a name by the next one.
* `follow_ofNames`: a location that is written as a path is read back as it was.

`resolveSpecifier_location` puts them together: a module path that is resolved against a
relative directory leads where it should if and only if that is at most one step up from where
one stands.
-/

namespace TransformerEngine

namespace Path

/-- Where a relative path leads: some steps up, and from there down along names. -/
structure Location where
  /-- The number of steps up. -/
  up : Nat := 0
  /-- The names on the way down, the last one first. -/
  names : List String := []
deriving DecidableEq, Repr

namespace Location

/-- One part of a path further. -/
def step (location : Location) (part : String) : Location :=
  if part = ".." then
    match location.names with
    | [] => { location with up := location.up + 1 }
    | _ :: before => { location with names := before }
  else { location with names := part :: location.names }

/-- Where one comes along a path. -/
def follow (location : Location) (path : String) : Location :=
  (components path).foldl step location

/-- What the location is written as: the names, and behind them a `..` for each step up. Like
the names they stand in reverse. -/
def written (location : Location) : List String :=
  location.names ++ List.replicate location.up ".."

/-- The location without pairs of steps up. -/
def folded (location : Location) : Location := { location with up := location.up % 2 }

theorem folded_eq_iff (location : Location) : location.folded = location ↔ location.up ≤ 1 := by
  obtain ⟨up, names⟩ := location
  simp only [folded, Location.mk.injEq, and_true]
  omega

end Location

/-! ### The parts of a path -/

/-- What stands between the slashes of a path, and says something. -/
def IsPart (part : String) : Prop := part ≠ "" ∧ part ≠ "." ∧ '/' ∉ part.toList

theorem parts_eq_splitOn (path : List Char) : parts path = path.splitOn '/' := by
  induction path with
  | nil => rfl
  | cons c rest ih =>
    rw [parts, ih, List.splitOn_cons_eq_if_modifyHead]
    by_cases h : c = '/'
    · simp [h]
    · rw [if_neg h, if_neg (by simpa using h)]
      cases hrest : rest.splitOn '/' with
      | nil => exact absurd hrest (List.splitOn_ne_nil _ _)
      | cons part others => rfl

/-- No slash stands in what slashes separate. -/
theorem not_mem_of_mem_parts {path part : List Char} (h : part ∈ parts path) : '/' ∉ part := by
  induction path generalizing part with
  | nil =>
    rw [List.mem_singleton.mp h]
    exact List.not_mem_nil
  | cons c rest ih =>
    rw [parts] at h
    split at h
    · rcases List.mem_cons.mp h with rfl | h
      · exact List.not_mem_nil
      · exact ih h
    · next hc =>
      -- the first character joins the first part of the rest
      have hjoined : ∀ own : List Char, '/' ∉ own → '/' ∉ c :: own := fun _ =>
        List.not_mem_cons_of_ne_of_not_mem fun heq => hc heq.symm
      split at h
      · next own others hrest =>
        rw [hrest] at ih
        rcases List.mem_cons.mp h with rfl | h
        · exact hjoined own (ih (List.mem_cons_self ..))
        · exact ih (List.mem_cons_of_mem _ h)
      · rw [List.mem_singleton.mp h]
        exact hjoined [] List.not_mem_nil

theorem isPart_of_mem_components {path part : String} (h : part ∈ components path) :
    IsPart part := by
  obtain ⟨hmem, hsays⟩ := List.mem_filter.mp h
  obtain ⟨chars, hchars, rfl⟩ := List.mem_map.mp hmem
  obtain ⟨hempty, hdot⟩ : String.ofList chars ≠ "" ∧ String.ofList chars ≠ "." := by
    simpa using hsays
  refine ⟨hempty, hdot, ?_⟩
  rw [String.toList_ofList]
  exact not_mem_of_mem_parts hchars

/-- A path whose text is that of one path, a slash and that of another has the parts of both. -/
theorem components_of_toList {path first second : String}
    (h : path.toList = first.toList ++ '/' :: second.toList) :
    components path = components first ++ components second := by
  unfold components
  rw [h, parts_eq_splitOn, parts_eq_splitOn, parts_eq_splitOn, List.splitOn_append_cons_self,
    List.map_append, List.filter_append]

/-- A slash at the end of a path says nothing. -/
theorem components_append_slash (path : String) : components (path ++ "/") = components path := by
  have htext : (path ++ "/").toList = path.toList ++ '/' :: "".toList := by
    rw [String.toList_append]
    rfl
  rw [components_of_toList htext]
  exact List.append_nil _

/-- A path that is read from a directory has the parts of the directory in front. -/
theorem components_join {directory path : String} (h : isAbsolute path = false) :
    components (join directory path) = components directory ++ components path := by
  unfold join
  rw [if_neg (by rw [h]; decide)]
  by_cases hend : directory = "" ∨ Text.hasEnding directory "/" = true
  · rw [if_pos (by simpa using hend)]
    rcases hend with rfl | hend
    · rw [String.empty_append]
      rfl
    · -- the slash of the directory stands between the two
      obtain ⟨stem, rfl⟩ := (Text.hasEnding_iff _ _).mp hend
      rw [components_append_slash]
      refine components_of_toList ?_
      rw [String.toList_append, String.toList_append, List.append_assoc]
      rfl
  · rw [if_neg (by simpa using hend)]
    refine components_of_toList ?_
    rw [String.toList_append, String.toList_append, List.append_assoc]
    rfl

/-- The names that a path was written from are its parts. -/
theorem components_ofNames {names : List String} (h : ∀ name ∈ names, IsPart name) :
    components (ofNames false names) = names := by
  have htext : (ofNames false names).toList = ['/'].intercalate (names.map String.toList) := by
    rw [ofNames, if_neg (by decide), String.empty_append, String.toList_intercalate]
    rfl
  unfold components
  rw [htext, parts_eq_splitOn]
  cases hnames : names with
  | nil => rfl
  | cons first others =>
    rw [← hnames]
    have hslash : ∀ chars ∈ names.map String.toList, '/' ∉ chars := by
      intro chars hchars
      obtain ⟨name, hname, rfl⟩ := List.mem_map.mp hchars
      exact (h name hname).2.2
    have hsome : names.map String.toList ≠ [] := by simp [hnames]
    have hback : (names.map String.toList).map String.ofList = names := by simp
    rw [List.splitOn_intercalate '/' hslash hsome, hback, List.filter_eq_self]
    intro name hname
    obtain ⟨hempty, hdot, -⟩ := h name hname
    simp [hempty, hdot]

/-! ### Relative paths -/

/-- Whether a path starts at the root is seen in its first part. -/
theorem isAbsolute_of_toList {path first : String} {rest : List Char}
    (h : path.toList = first.toList ++ rest) (hfirst : first ≠ "") :
    isAbsolute path = isAbsolute first := by
  have hchars : first.toList ≠ [] := fun hnil => hfirst (String.toList_eq_nil_iff.mp hnil)
  obtain ⟨c, others, hc⟩ := List.exists_cons_of_ne_nil hchars
  unfold isAbsolute Text.hasStart
  rw [h, hc]
  rfl

theorem isAbsolute_join {directory path : String} (hdirectory : isAbsolute directory = false)
    (h : isAbsolute path = false) : isAbsolute (join directory path) = false := by
  unfold join
  rw [if_neg (by rw [h]; decide)]
  by_cases hempty : directory = ""
  · rw [hempty, if_pos (by decide), String.empty_append]
    exact h
  · split
    · rw [isAbsolute_of_toList (String.toList_append ..) hempty]
      exact hdirectory
    · have htext : (directory ++ "/" ++ path).toList =
          directory.toList ++ ("/".toList ++ path.toList) := by
        rw [String.toList_append, String.toList_append, List.append_assoc]
      rw [isAbsolute_of_toList htext hempty]
      exact hdirectory

theorem isAbsolute_ofNames {names : List String} (h : ∀ name ∈ names, IsPart name) :
    isAbsolute (ofNames false names) = false := by
  cases names with
  | nil => rfl
  | cons first others =>
    obtain ⟨hempty, -, hslash⟩ := h first (List.mem_cons_self ..)
    have htext : ∃ rest, (ofNames false (first :: others)).toList = first.toList ++ rest := by
      rw [ofNames, if_neg (by decide), String.empty_append]
      cases others with
      | nil => exact ⟨[], (List.append_nil _).symm⟩
      | cons second others =>
        rw [String.intercalate_cons_cons, String.append_assoc, String.toList_append]
        exact ⟨_, rfl⟩
    obtain ⟨rest, htext⟩ := htext
    rw [isAbsolute_of_toList htext hempty]
    refine Bool.eq_false_iff.mpr fun habsolute => hslash ?_
    -- a slash in front would be one of its characters
    exact (List.isPrefixOf_iff_prefix.mp habsolute).subset (List.mem_singleton.mpr rfl)

/-! ### Following and resolving -/

section Following

variable {location : Location}

/-- After one part more, the names kept are what the location is written as, folded. -/
theorem push_written (location : Location) (part : String) :
    push location.folded.written part = (location.step part).folded.written := by
  obtain ⟨up, names⟩ := location
  by_cases h : part = ".."
  · unfold push Location.step
    rw [if_pos h, if_pos h]
    cases names with
    | cons name before => rfl
    | nil =>
      -- a step up is written, or the one that is written is taken back
      rcases Nat.mod_two_eq_zero_or_one up with heven | hodd
      · have hnext : (up + 1) % 2 = 1 := by omega
        simp [Location.written, Location.folded, heven, hnext]
      · have hnext : (up + 1) % 2 = 0 := by omega
        simp [Location.written, Location.folded, hodd, hnext]
  · unfold push Location.step
    rw [if_neg h, if_neg h]
    rfl

/-- The names of a location are parts of paths, and none of them is `..`. -/
def Location.Proper (location : Location) : Prop :=
  ∀ name ∈ location.names, IsPart name ∧ name ≠ ".."

theorem Location.Proper.step (h : location.Proper) {part : String} (hpart : IsPart part) :
    (location.step part).Proper := by
  intro name hname
  unfold Location.step at hname
  split at hname
  · split at hname
    · exact h name hname
    · next before hnames =>
      refine h name ?_
      rw [hnames]
      exact List.mem_cons_of_mem _ hname
  · next hne =>
    rcases List.mem_cons.mp hname with rfl | hname
    · exact ⟨hpart, hne⟩
    · exact h name hname

/-- Following a path, one stays at proper locations. -/
theorem Location.Proper.follow (h : location.Proper) (path : String) :
    (location.follow path).Proper := by
  have hparts : ∀ part ∈ components path, IsPart part := fun _ => isPart_of_mem_components
  unfold Location.follow
  generalize components path = parts at hparts
  induction parts generalizing location with
  | nil => exact h
  | cons part rest ih =>
    obtain ⟨hpart, hrest⟩ := List.forall_mem_cons.mp hparts
    exact ih (h.step hpart) hrest

/-- The names that are kept along a path are what the location it leads to is written as,
folded. -/
theorem foldl_push (location : Location) (path : String) :
    (components path).foldl push location.folded.written =
      (location.follow path).folded.written := by
  unfold Location.follow
  generalize components path = parts
  induction parts generalizing location with
  | nil => rfl
  | cons part rest ih =>
    rw [List.foldl_cons, List.foldl_cons, push_written]
    exact ih (location.step part)

theorem isPart_of_mem_written (h : location.Proper) {part : String}
    (hpart : part ∈ location.written) : IsPart part := by
  rcases List.mem_append.mp hpart with hname | hup
  · exact (h part hname).1
  · rw [List.eq_of_mem_replicate hup]
    exact ⟨by decide, by decide, by decide⟩

/-- **Written and read.** The path that a location is written as leads there. -/
theorem follow_ofNames (h : location.Proper) :
    Location.follow {} (ofNames false location.written.reverse) = location := by
  have hparts : ∀ part ∈ location.written.reverse, IsPart part := fun part hpart =>
    isPart_of_mem_written h (List.mem_reverse.mp hpart)
  unfold Location.follow
  rw [components_ofNames hparts, List.foldl_reverse]
  obtain ⟨up, names⟩ := location
  unfold Location.written
  rw [List.foldr_append]
  have hup : (List.replicate up "..").foldr (fun part l => l.step part) {} =
      ({ up } : Location) := by
    clear h hparts
    induction up with
    | zero => rfl
    | succ up ih =>
      rw [List.replicate_succ, List.foldr_cons, ih]
      rfl
  rw [hup]
  clear hup hparts
  induction names with
  | nil => rfl
  | cons name before ih =>
    obtain ⟨⟨-, hname⟩, hbefore⟩ := List.forall_mem_cons.mp h
    rw [List.foldr_cons, ih hbefore, Location.step, if_neg hname]

/-- **Resolving a path** from a relative directory leads where the path leads from there, but
for pairs of steps up, which get lost. -/
theorem follow_resolve {directory path : String} (hdirectory : isAbsolute directory = false)
    (h : isAbsolute path = false) :
    isAbsolute (resolve directory path) = false ∧
      Location.follow {} (resolve directory path) =
        ((Location.follow {} directory).follow path).folded := by
  let meant := (Location.follow {} directory).follow path
  have hfollow : Location.follow {} (join directory path) = meant := by
    unfold Location.follow
    rw [components_join h, List.foldl_append]
    rfl
  have hresolve : resolve directory path = ofNames false meant.folded.written.reverse := by
    unfold resolve normalize
    rw [isAbsolute_join hdirectory h, ← hfollow, ← foldl_push]
    rfl
  have hhere : Location.Proper {} := fun _ hname => absurd hname List.not_mem_nil
  have hproper : meant.folded.Proper := (hhere.follow directory).follow path
  rw [hresolve]
  refine ⟨isAbsolute_ofNames fun part hpart => ?_, follow_ofNames hproper⟩
  exact isPart_of_mem_written hproper (List.mem_reverse.mp hpart)

end Following

end Path

/-- A module path that says where to start from does not start at the root. -/
theorem isAbsolute_of_isRelativeSpecifier {specifier : String}
    (h : isRelativeSpecifier specifier = true) : Path.isAbsolute specifier = false := by
  have hdot : ∃ rest, specifier.toList = ".".toList ++ rest := by
    rcases Bool.or_eq_true_iff.mp h with hstart | hstart
    · obtain ⟨rest, hrest⟩ := List.isPrefixOf_iff_prefix.mp hstart
      exact ⟨_, hrest.symm⟩
    · obtain ⟨rest, hrest⟩ := List.isPrefixOf_iff_prefix.mp hstart
      exact ⟨_, hrest.symm⟩
  obtain ⟨rest, hrest⟩ := hdot
  rw [Path.isAbsolute_of_toList hrest (by decide)]
  rfl

/-- **Where a resolved module path leads.** A module path that starts with `./` or `../` and is
resolved against a relative directory comes to a relative path. It leads along the names along
which the module path leads from the directory, but only one step up if the steps up are odd
in number, and none if they are even. So it leads to the same place if and only if that is at
most one step up from where one stands. -/
theorem resolveSpecifier_location {directory specifier : String}
    (hdirectory : Path.isAbsolute directory = false)
    (h : isRelativeSpecifier specifier = true) :
    let meant := (Path.Location.follow {} directory).follow specifier
    let resolved := resolveSpecifier specifier (some directory)
    Path.isAbsolute resolved = false ∧
    Path.Location.follow {} resolved = { meant with up := meant.up % 2 } ∧
    (Path.Location.follow {} resolved = meant ↔ meant.up ≤ 1) := by
  intro meant resolved
  have hresolved : resolved = Path.resolve directory specifier := by
    change (if isRelativeSpecifier specifier = true then _ else _) = _
    rw [if_pos h]
  obtain ⟨hrelative, hfollow⟩ :=
    Path.follow_resolve hdirectory (isAbsolute_of_isRelativeSpecifier h)
  rw [← hresolved] at hrelative hfollow
  exact ⟨hrelative, hfollow, by rw [hfollow]; exact meant.folded_eq_iff⟩

/-- From `p`, three steps up and `y` down are two steps up and `y` down from where one stands.
The resolved path leads to `y` beside `p`. -/
theorem resolveSpecifier_location_sample :
    Path.isAbsolute "p" = false ∧ isRelativeSpecifier "../../../y" = true ∧
    (Path.Location.follow {} "p").follow "../../../y" = ⟨2, ["y"]⟩ ∧
    resolveSpecifier "../../../y" (some "p") = "y" ∧
    Path.Location.follow {} "y" = ⟨0, ["y"]⟩ ∧
    Path.Location.follow {} "y" ≠ (Path.Location.follow {} "p").follow "../../../y" := by
  have hp : Path.isAbsolute "p" = false := by decide
  have hrelative : isRelativeSpecifier "../../../y" = true := by decide
  have hmeant : (Path.Location.follow {} "p").follow "../../../y" = ⟨2, ["y"]⟩ := by decide
  have hresolved : resolveSpecifier "../../../y" (some "p") = "y" := by decide
  obtain ⟨-, hfollow, hiff⟩ := resolveSpecifier_location hp hrelative
  rw [hresolved, hmeant] at hfollow hiff
  refine ⟨hp, hrelative, hmeant, hresolved, hfollow, ?_⟩
  rw [hmeant]
  exact fun hsame => absurd (hiff.mp hsame) (by decide)

end TransformerEngine
