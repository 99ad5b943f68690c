import TransformerEngine.Proofs.Path.Canonical

/-!
# Local modules and packages

A module path says where to start from, or starts at the root, or names a package. A package is
known by its module path as it stands. A local module is known by what its path is resolved to,
and if that path looks like the name of a package, nothing tells the two apart: plugins from
both have one identity.

Resolving against an absolute directory keeps local modules apart from packages, since the
resolved path starts at the root. Resolving against a relative directory does not, since the
`./` that marks a local module says nothing of its own and is taken out. Only a path that begins
with a step up and goes on keeps its mark (`hasStart_ofNames_iff`, `climbs_iff`).
`local_meets_package_iff` says which local modules are taken for packages.
-/

namespace TransformerEngine

/-- Whether a module path names a package: it neither says where to start from nor starts at
the root. -/
def isPackageSpecifier (specifier : String) : Bool :=
  !isRelativeSpecifier specifier && !Path.isAbsolute specifier

theorem isPackageSpecifier_iff {specifier : String} :
    isPackageSpecifier specifier = true ↔
      isRelativeSpecifier specifier = false ∧ Path.isAbsolute specifier = false := by
  simp [isPackageSpecifier]

/-- Packages are left alone. -/
theorem resolveSpecifier_package {package : String} (h : isPackageSpecifier package = true)
    (base : Option String) : resolveSpecifier package base = package := by
  obtain ⟨hrelative, -⟩ := isPackageSpecifier_iff.mp h
  cases base with
  | none => rfl
  | some directory =>
    show (if isRelativeSpecifier package = true then _ else _) = _
    rw [hrelative, if_neg Bool.false_ne_true]

namespace Path

/-! ### What a path begins with -/

/-- Two texts that go on behind their first slash are the same up to there, or neither begins
with the other's beginning. -/
theorem prefix_slash_iff {first start rest : List Char} (hfirst : '/' ∉ first)
    (hstart : '/' ∉ start) : start ++ ['/'] <+: first ++ '/' :: rest ↔ start = first := by
  have hbefore : ∀ part : List Char, '/' ∉ part → ∀ more : List Char,
      (part ++ '/' :: more).takeWhile (· ≠ '/') = part := by
    intro part hpart more
    have hall : ∀ c ∈ part, decide (c ≠ '/') = true := by
      intro c hc
      exact decide_eq_true fun heq => hpart (heq ▸ hc)
    rw [List.takeWhile_append_of_pos hall, List.takeWhile_cons_of_neg (by decide),
      List.append_nil]
  constructor
  · rintro ⟨more, h⟩
    have htext : start ++ '/' :: more = first ++ '/' :: rest := by
      rw [← h, List.append_assoc]
      rfl
    calc start
        = (start ++ '/' :: more).takeWhile (· ≠ '/') := (hbefore start hstart more).symm
      _ = (first ++ '/' :: rest).takeWhile (· ≠ '/') := by rw [htext]
      _ = first := hbefore first hfirst rest
  · rintro rfl
    refine ⟨rest, ?_⟩
    rw [List.append_assoc]
    rfl

/-- **What a path begins with.** A path that is written from names begins with some name and a
slash if and only if this is its first name and others follow. -/
theorem hasStart_ofNames_iff {names : List String} (h : ∀ name ∈ names, IsPart name)
    (start : String) (hstart : '/' ∉ start.toList) :
    Text.hasStart (ofNames false names) (start ++ "/") = true ↔
      ∃ next others, names = start :: next :: others := by
  unfold Text.hasStart
  rw [List.isPrefixOf_iff_prefix, String.toList_append]
  have hwritten : ofNames false names = String.intercalate "/" names := String.empty_append
  rw [hwritten]
  cases names with
  | nil =>
    refine iff_of_false ?_ ?_
    · intro hprefix
      exact absurd (List.append_eq_nil_iff.mp (List.prefix_nil.mp hprefix)).2 (by decide)
    · rintro ⟨next, others, heq⟩
      exact nomatch heq
  | cons first rest =>
    obtain ⟨⟨-, -, hfirst⟩, hrest⟩ := List.forall_mem_cons.mp h
    cases rest with
    | nil =>
      refine iff_of_false ?_ ?_
      · -- a single name has no slash
        intro hstarts
        have hslash : '/' ∈ start.toList ++ "/".toList :=
          List.mem_append_right _ (List.mem_singleton.mpr rfl)
        rw [String.intercalate_singleton] at hstarts
        exact hfirst (hstarts.subset hslash)
      · rintro ⟨next, others, heq⟩
        exact nomatch heq
    | cons second others =>
      have htext : (String.intercalate "/" (first :: second :: others)).toList =
          first.toList ++ '/' :: (String.intercalate "/" (second :: others)).toList := by
        rw [String.intercalate_cons_cons, String.toList_append, String.toList_append,
          List.append_assoc]
        rfl
      rw [htext]
      refine (prefix_slash_iff hfirst hstart).trans ?_
      constructor
      · intro heq
        exact ⟨second, others, by rw [String.toList_inj.mp heq]⟩
      · rintro ⟨next, others', heq⟩
        rw [(List.cons.inj heq).1]

/-- A folded location is written with a step up and something behind it if and only if the
steps up are odd in number and there are names. -/
theorem climbs_iff {location : Location} (h : location.folded.Proper) :
    (∃ next others, location.folded.written.reverse = ".." :: next :: others) ↔
      ¬(location.up % 2 = 0 ∨ location.names = []) := by
  have hnames : ".." ∉ location.names.reverse := by
    intro hmem
    exact (h ".." (List.mem_reverse.mp hmem)).2 rfl
  rw [reverse_written_folded]
  rcases Nat.mod_two_eq_zero_or_one location.up with heven | hodd
  · -- without a step up, what is written begins with a name or not at all
    rw [heven, if_neg (by decide), List.nil_append]
    refine iff_of_false ?_ (fun hnone => hnone (.inl rfl))
    rintro ⟨next, others, heq⟩
    exact hnames (heq ▸ List.mem_cons_self)
  · rw [hodd, if_pos rfl, List.singleton_append]
    have hsome : (∃ next others, location.names.reverse = next :: others) ↔
        location.names ≠ [] := by
      rw [← List.ne_nil_iff_exists_cons, ne_eq, List.reverse_eq_nil_iff]
    simpa using hsome

end Path

/-- **When a resolved path looks like the name of a package.** -/
theorem isPackageSpecifier_normalize_iff {path : String} (h : Path.isAbsolute path = false) :
    let location := Path.Location.follow {} path
    isPackageSpecifier (Path.normalize path) = true ↔
      location.up % 2 = 0 ∨ location.names = [] := by
  intro location
  have hparts := Path.isPart_of_mem_written_follow path
  have hpath : Path.normalize path = Path.ofNames false location.folded.written.reverse := by
    rw [Path.normalize_eq, h]
  have habsolute : Path.isAbsolute (Path.normalize path) = false := by
    rw [hpath]
    exact Path.isAbsolute_ofNames hparts
  -- no part of a path is `.`, so that nothing is left of a `./` in front
  have hhere : Text.hasStart (Path.normalize path) "./" = false := by
    rw [Bool.eq_false_iff]
    intro hstart
    rw [hpath] at hstart
    obtain ⟨next, others, heq⟩ :=
      (Path.hasStart_ofNames_iff hparts "." (by decide)).mp hstart
    exact (hparts "." (heq ▸ List.mem_cons_self)).2.1 rfl
  have hup : Text.hasStart (Path.normalize path) "../" = true ↔
      ¬(location.up % 2 = 0 ∨ location.names = []) := by
    rw [hpath]
    exact (Path.hasStart_ofNames_iff hparts ".." (by decide)).trans
      (Path.climbs_iff (Path.proper_follow path))
  calc isPackageSpecifier (Path.normalize path) = true
      ↔ isRelativeSpecifier (Path.normalize path) = false := by
        rw [isPackageSpecifier_iff, habsolute]
        exact and_iff_left rfl
    _ ↔ Text.hasStart (Path.normalize path) "../" = false := by
        unfold isRelativeSpecifier
        rw [hhere, Bool.false_or]
    _ ↔ location.up % 2 = 0 ∨ location.names = [] := by
        rw [Bool.eq_false_iff, ne_eq, hup, Decidable.not_not]

namespace Sample

/-- Configures a module beside the configuration. -/
def localEntry : Json := .object [("transform", .string "./banner")]

/-- Configures a package. -/
def packageEntry : Json := .object [("transform", .string "banner")]

/-- What `localEntry` configures where paths are read from here. -/
def localDescriptor : PluginDescriptor := { module := "banner", config := localEntry }

def packageDescriptor : PluginDescriptor := { module := "banner", config := packageEntry }

end Sample

/-- **When a local module is taken for a package.** A module path that starts with `./` or `../`
and is resolved against a directory comes to the same as the module path of some package if and
only if the directory is relative and, of the steps up to which directory and module path lead
together, none is left or nothing else is: their number is even, or no name is behind them. -/
theorem local_meets_package_iff {directory specifier : String}
    (h : isRelativeSpecifier specifier = true) :
    let meant := (Path.Location.follow {} directory).follow specifier
    (∃ package, isPackageSpecifier package = true ∧
      resolveSpecifier package (some directory) = resolveSpecifier specifier (some directory)) ↔
    Path.isAbsolute directory = false ∧ (meant.up % 2 = 0 ∨ meant.names = []) := by
  intro meant
  have hrelative := isAbsolute_of_isRelativeSpecifier h
  have hresolved := resolveSpecifier_relative h directory
  -- a package is left alone, so it can only be the resolved path itself
  have hself : (∃ package, isPackageSpecifier package = true ∧
      resolveSpecifier package (some directory) = resolveSpecifier specifier (some directory)) ↔
      isPackageSpecifier (Path.normalize (Path.join directory specifier)) = true := by
    constructor
    · rintro ⟨package, hpackage, hmeet⟩
      rw [resolveSpecifier_package hpackage, hresolved] at hmeet
      exact hmeet ▸ hpackage
    · intro hpackage
      exact ⟨_, hpackage, by rw [resolveSpecifier_package hpackage, hresolved]⟩
  rw [hself]
  cases hdirectory : Path.isAbsolute directory with
  | true =>
    have hcanonical := Path.isCanonical_normalize (Path.isAbsolute_join_root hdirectory hrelative)
    refine iff_of_false ?_ (fun hdir => Bool.noConfusion hdir.1)
    intro hpackage
    have hrelative := (isPackageSpecifier_iff.mp hpackage).2
    exact Bool.false_ne_true (hrelative.symm.trans hcanonical.isAbsolute)
  | false =>
    have hmeant : Path.Location.follow {} (Path.join directory specifier) = meant := by
      unfold Path.Location.follow
      rw [Path.components_join hrelative, List.foldl_append]
      rfl
    have hjoin := Path.isAbsolute_join hdirectory hrelative
    rw [← hmeant]
    exact (isPackageSpecifier_normalize_iff hjoin).trans (and_iff_right rfl).symm

/-- The directory of a configuration file that is named without one is empty. Read from there,
`./banner` is taken for the package `banner`: entries for the two configure plugins of one
identity, though only one of them is local. A path with one step up keeps its mark. -/
theorem local_meets_package_iff_sample :
    Path.parent "tsconfig.json" = "" ∧
    isRelativeSpecifier "./banner" = true ∧ isPackageSpecifier "banner" = true ∧
    resolveSpecifier "banner" (some "") = resolveSpecifier "./banner" (some "") ∧
    PluginDescriptor.ofEntries [Sample.localEntry, Sample.packageEntry] (some "") =
      .ok [Sample.localDescriptor, Sample.packageDescriptor] ∧
    Sample.localDescriptor.identity = Sample.packageDescriptor.identity ∧
    Sample.localDescriptor ≠ Sample.packageDescriptor ∧
    isRelativeSpecifier "../banner" = true ∧
    ¬∃ package, isPackageSpecifier package = true ∧
      resolveSpecifier package (some "") = resolveSpecifier "../banner" (some "") := by
  have hlocal : isRelativeSpecifier "./banner" = true := by decide
  have hup : isRelativeSpecifier "../banner" = true := by decide
  have hmeets : ∃ package, isPackageSpecifier package = true ∧
      resolveSpecifier package (some "") = resolveSpecifier "./banner" (some "") :=
    (local_meets_package_iff hlocal).mpr (by decide)
  have hapart : ¬∃ package, isPackageSpecifier package = true ∧
      resolveSpecifier package (some "") = resolveSpecifier "../banner" (some "") :=
    fun hmeets => absurd ((local_meets_package_iff hup).mp hmeets) (by decide)
  obtain ⟨package, hpackage, hmeet⟩ := hmeets
  have hname : package = "banner" := by
    rw [resolveSpecifier_package hpackage] at hmeet
    exact hmeet.trans (by decide)
  subst hname
  exact ⟨by decide, hlocal, hpackage, hmeet, rfl, rfl, by decide, hup, hapart⟩

end TransformerEngine
