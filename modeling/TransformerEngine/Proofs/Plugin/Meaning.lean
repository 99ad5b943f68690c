import TransformerEngine.Proofs.Plugin.Entry

/-!
# What one entry means

What an entry of a `plugins` array configures, and what can be wrong with it, said without
saying how it is read.

An entry may list module paths in the older form (`Older`) and name one module (`Newer`). It
configures what both forms do, the older one first (`Configures`).

Nine things can be wrong with an entry. Each of them is the fault of an entry only if whatever
counts before it is right: the groups of the older form come first, the one that runs before the
other; behind them come the module path, the import and the kind (`OlderFault`, `NewerFault`,
`Malformed`).

Apart from the groups of the older form, a member that is `null` is as good as missing
(`given?`).
-/

namespace TransformerEngine

namespace PluginEntry

/-! ### Members -/

/-- The member `key` of an entry, where `null` says as little as nothing. -/
def given? (entry : Members) (key : String) : Option Json :=
  (Entries.find? key entry).filter fun value => !value.isNull

/-- The entry sets the member `key` to `true`. -/
def Sets (entry : Members) (key : String) : Prop := given? entry key = some (.bool true)

section Members

variable {entry : Members} {key : String}

theorem given?_of_none (h : Entries.find? key entry = none) : given? entry key = none := by
  unfold given?
  rw [h]
  rfl

theorem given?_of_null (h : Entries.find? key entry = some .null) : given? entry key = none := by
  unfold given?
  rw [h]
  rfl

theorem given?_of_some {value : Json} (h : Entries.find? key entry = some value)
    (hvalue : value ≠ .null) : given? entry key = some value := by
  unfold given?
  rw [h]
  cases value with
  | null => exact absurd rfl hvalue
  | _ => rfl

/-- A flag is up if and only if the entry sets it. -/
theorem flag_iff : flag entry key = true ↔ Sets entry key := by
  unfold flag Sets
  cases hfound : Entries.find? key entry with
  | none =>
    rw [given?_of_none hfound]
    exact iff_of_false Bool.false_ne_true (nomatch ·)
  | some value =>
    cases value with
    | null =>
      rw [given?_of_null hfound]
      exact iff_of_false Bool.false_ne_true (nomatch ·)
    | bool b =>
      rw [given?_of_some hfound (by simp)]
      show b = true ↔ _
      rw [Option.some.injEq, Json.bool.injEq]
    | _ =>
      rw [given?_of_some hfound (by simp)]
      exact iff_of_false Bool.false_ne_true (by simp)

instance : Decidable (Sets entry key) := decidable_of_iff _ flag_iff

end Members

/-! ### The older form -/

/-- A group lists module paths, or there is no such group. -/
inductive Lists (groups : Members) (phase : Phase) : List String → Prop
  | missing (h : Entries.find? phase.name groups = none) : Lists groups phase []
  | listed {paths : List String}
      (h : Entries.find? phase.name groups = some (.array (paths.map .string))) :
      Lists groups phase paths

/-- What is wrong with a group. -/
inductive GroupFault (groups : Members) (phase : Phase) : String → Prop
  | notList {value : Json} (h : Entries.find? phase.name groups = some value)
      (hvalue : value.items? = none) :
      GroupFault groups phase
        s!"`customTransformers.{phase.name}` must be an array of module paths"
  | notPath {items : List Json} {item : Json}
      (h : Entries.find? phase.name groups = some (.array items)) (hitem : item ∈ items)
      (hvalue : item.string? = none) :
      GroupFault groups phase s!"`customTransformers.{phase.name}` entries must be strings"

/-- A group that there is not has no fault. -/
theorem GroupFault.found {groups : Members} {phase : Phase} {reason : String}
    (h : GroupFault groups phase reason) : Entries.find? phase.name groups ≠ none := by
  intro hnone
  cases h with
  | notList hfound => exact nomatch hnone.symm.trans hfound
  | notPath hfound => exact nomatch hnone.symm.trans hfound

/-- The descriptor of a path that is listed in the older form. -/
def pathDescriptor (base : Option String) (entry : Members) (phase : Phase) (path : String) :
    PluginDescriptor where
  module := resolveSpecifier path base
  importName := none
  kind := .plain
  phase := phase
  beforeEmit := false
  config := .object entry

/-- What an entry configures in the older form: a plain plugin for each path, those that run
before the others first. -/
inductive Older (base : Option String) (entry : Members) : List PluginDescriptor → Prop
  | absent (h : Entries.find? groupsKey entry = none) : Older base entry []
  | groups {groups : Members} {before after : List String}
      (h : Entries.find? groupsKey entry = some (.object groups))
      (hbefore : Lists groups .before before) (hafter : Lists groups .after after) :
      Older base entry (before.map (pathDescriptor base entry .before) ++
        after.map (pathDescriptor base entry .after))

/-- What is wrong with the older form of an entry. -/
inductive OlderFault (entry : Members) : String → Prop
  | notGroups {value : Json} (h : Entries.find? groupsKey entry = some value)
      (hvalue : value.members? = none) :
      OlderFault entry "`customTransformers` must be an object"
  | before {groups : Members} {reason : String}
      (h : Entries.find? groupsKey entry = some (.object groups))
      (hbefore : GroupFault groups .before reason) : OlderFault entry reason
  | after {groups : Members} {paths : List String} {reason : String}
      (h : Entries.find? groupsKey entry = some (.object groups))
      (hbefore : Lists groups .before paths) (hafter : GroupFault groups .after reason) :
      OlderFault entry reason

namespace OlderFault

variable {entry groups : Members} {reason : String}

/-- An entry without groups has no fault of the older form. -/
theorem found (h : OlderFault entry reason) : Entries.find? groupsKey entry ≠ none := by
  intro hnone
  cases h with
  | notGroups hfound => exact nomatch hnone.symm.trans hfound
  | before hfound => exact nomatch hnone.symm.trans hfound
  | after hfound => exact nomatch hnone.symm.trans hfound

/-- Where the groups are an object, one of them is at fault. -/
theorem of_groups (h : OlderFault entry reason)
    (hgroups : Entries.find? groupsKey entry = some (.object groups)) :
    GroupFault groups .before reason ∨
      (∃ paths, Lists groups .before paths) ∧ GroupFault groups .after reason := by
  cases h with
  | notGroups hfound hvalue =>
    obtain rfl := Option.some.inj (hgroups.symm.trans hfound)
    exact nomatch hvalue
  | before hfound hbefore =>
    obtain rfl := Json.object.inj (Option.some.inj (hgroups.symm.trans hfound))
    exact .inl hbefore
  | after hfound hbefore hafter =>
    obtain rfl := Json.object.inj (Option.some.inj (hgroups.symm.trans hfound))
    exact .inr ⟨⟨_, hbefore⟩, hafter⟩

end OlderFault

/-! ### A named module -/

/-- The import that an entry asks for. -/
inductive Imports (entry : Members) : Option String → Prop
  | default (h : given? entry "import" = none) : Imports entry none
  | named {name : String} (h : given? entry "import" = some (.string name)) :
      Imports entry (some name)

/-- The kind that an entry declares. -/
inductive Declares (entry : Members) : PluginKind → Prop
  | default (h : given? entry "type" = none) : Declares entry .plain
  | named {kind : PluginKind} (h : given? entry "type" = some (.string kind.name)) :
      Declares entry kind

/-- The phase that an entry asks for. -/
inductive RunsIn (entry : Members) : Phase → Prop
  | afterDeclarations (h : Sets entry "afterDeclarations") : RunsIn entry .afterDeclarations
  | after (hnot : ¬Sets entry "afterDeclarations") (h : Sets entry "after") : RunsIn entry .after
  | before (hnot : ¬Sets entry "afterDeclarations") (h : ¬Sets entry "after") :
      RunsIn entry .before

/-- The entry marks its plugin as a transform of whole programs. -/
def Marks (entry : Members) : Prop := Sets entry "beforeEmit" ∨ Sets entry "transformProgram"

/-- What an entry configures by naming a module: one plugin, which transforms whole programs if
the entry marks it so, and has the declared kind otherwise. -/
inductive Newer (base : Option String) (entry : Members) : List PluginDescriptor → Prop
  | absent (h : given? entry moduleKey = none) : Newer base entry []
  | named {specifier : String} {declared : PluginKind} {d : PluginDescriptor}
      (h : given? entry moduleKey = some (.string specifier))
      (hmodule : d.module = resolveSpecifier specifier base)
      (himport : Imports entry d.importName)
      (hdeclared : Declares entry declared)
      (hmarked : Marks entry → d.kind = .program)
      (hunmarked : ¬Marks entry → d.kind = declared)
      (hphase : RunsIn entry d.phase)
      (hemit : d.beforeEmit = true ↔ d.kind = .program)
      (hconfig : d.config = .object entry) :
      Newer base entry [d]

/-- What is wrong with an entry that names a module. -/
inductive NewerFault (entry : Members) : String → Prop
  | notPath {value : Json} (h : given? entry moduleKey = some value)
      (hvalue : value.string? = none) :
      NewerFault entry "`transform` must be a module path string"
  | notImport {specifier : String} {value : Json}
      (h : given? entry moduleKey = some (.string specifier))
      (himport : given? entry "import" = some value) (hvalue : value.string? = none) :
      NewerFault entry "`import` must be a string"
  | unknownKind {specifier name : String} {importName : Option String}
      (h : given? entry moduleKey = some (.string specifier))
      (himport : Imports entry importName)
      (htype : given? entry "type" = some (.string name))
      (hname : ∀ kind : PluginKind, kind.name ≠ name) :
      NewerFault entry s!"unknown transformer type '{name}'"
  | notKind {specifier : String} {importName : Option String} {value : Json}
      (h : given? entry moduleKey = some (.string specifier))
      (himport : Imports entry importName)
      (htype : given? entry "type" = some value) (hvalue : value.string? = none) :
      NewerFault entry "`type` must be a string"

/-- An entry that names no module has no fault in naming it. -/
theorem NewerFault.found {entry : Members} {reason : String} (h : NewerFault entry reason) :
    given? entry moduleKey ≠ none := by
  intro hnone
  cases h with
  | notPath hgiven => exact nomatch hnone.symm.trans hgiven
  | notImport hgiven => exact nomatch hnone.symm.trans hgiven
  | unknownKind hgiven => exact nomatch hnone.symm.trans hgiven
  | notKind hgiven => exact nomatch hnone.symm.trans hgiven

/-! ### Entries -/

/-- **What an entry configures:** what it does in the older form, and behind it what it does by
naming a module. Whatever is no object configures nothing. -/
inductive Configures (base : Option String) : Json → List PluginDescriptor → Prop
  | object {entry : Members} {older newer : List PluginDescriptor}
      (holder : Older base entry older) (hnewer : Newer base entry newer) :
      Configures base (.object entry) (older ++ newer)
  | other {value : Json} (h : value.members? = none) : Configures base value []

/-- **What is wrong with an entry.** A fault of the older form comes first. -/
inductive Malformed : Json → String → Prop
  | older {entry : Members} {reason : String} (h : OlderFault entry reason) :
      Malformed (.object entry) reason
  | newer {entry : Members} {reason : String} (holder : ∀ r, ¬OlderFault entry r)
      (h : NewerFault entry reason) : Malformed (.object entry) reason

end PluginEntry

end TransformerEngine
