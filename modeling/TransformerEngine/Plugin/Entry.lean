import TransformerEngine.Path.Basic
import TransformerEngine.Plugin.Descriptor
import TransformerEngine.Plugin.Error

/-!
# Plugin entries

The `plugins` array of the compiler options configures transforms and unrelated things
side by side. An entry is a transform entry if it has one of two keys:

* `transform`, which `null` does not count as, names one module. Further members give
  the import, the kind and the phase.
* `customTransformers`, the older form, lists module paths under `before` and `after`.

Everything else is passed over. An entry may have both keys; the older form comes first.

Module paths that start with `./` or `../` are resolved against a base directory where
there is one; all others name packages or absolute paths and are left alone.
-/

namespace TransformerEngine

/-- Whether a module path says where to start from. -/
def isRelativeSpecifier (specifier : String) : Bool :=
  Text.hasStart specifier "./" || Text.hasStart specifier "../"

/-- The module that a path names when it is read from `base`. -/
def resolveSpecifier (specifier : String) (base : Option String) : String :=
  match base with
  | some directory =>
    if isRelativeSpecifier specifier then Path.resolve directory specifier else specifier
  | none => specifier

namespace PluginEntry

/-- The members of an entry, in order. -/
abbrev Members := List (String × Json)

/-- The key of the older form. -/
def groupsKey : String := "customTransformers"

/-- The key that names a module. -/
def moduleKey : String := "transform"

/-- Whether a member is `true`. -/
def flag (entry : Members) (key : String) : Bool :=
  ((Entries.find? key entry).bind Json.bool?).getD false

/-- The descriptor of one path of the older form. -/
def groupPath (base : Option String) (entry : Members) (key : String) (phase : Phase)
    (path : Json) : Except String PluginDescriptor :=
  match path with
  | .string specifier =>
    .ok { module := resolveSpecifier specifier base, phase, config := .object entry }
  | _ => .error s!"`customTransformers.{key}` entries must be strings"

/-- The descriptors of one group of the older form. -/
def group (base : Option String) (entry groups : Members) (phase : Phase) :
    Except String (List PluginDescriptor) :=
  match Entries.find? phase.name groups with
  | none => .ok []
  | some (.array paths) => paths.mapM (groupPath base entry phase.name phase)
  | some _ =>
    .error s!"`customTransformers.{phase.name}` must be an array of module paths"

/-- The descriptors of an entry in the older form. -/
def groupDescriptors (base : Option String) (entry : Members) :
    Except String (List PluginDescriptor) :=
  match Entries.find? groupsKey entry with
  | some (.object groups) => do
    let before ← group base entry groups .before
    let after ← group base entry groups .after
    return before ++ after
  | _ => .error "`customTransformers` must be an object"

/-- The import of an entry. -/
def importName (entry : Members) : Except String (Option String) :=
  match Entries.find? "import" entry with
  | none | some .null => .ok none
  | some (.string name) => .ok (some name)
  | some _ => .error "`import` must be a string"

/-- The kind that an entry declares. -/
def declaredKind (entry : Members) : Except String PluginKind :=
  match Entries.find? "type" entry with
  | none | some .null => .ok default
  | some (.string name) =>
    match PluginKind.ofName? name with
    | some kind => .ok kind
    | none => .error s!"unknown transformer type '{name}'"
  | some _ => .error "`type` must be a string"

/-- Whether an entry marks its plugin as a transform of whole programs, whatever kind it
declares. -/
def marksProgram (entry : Members) : Bool :=
  flag entry "beforeEmit" || flag entry "transformProgram"

/-- The phase of an entry; the later one if it names two. -/
def phase (entry : Members) : Phase :=
  if flag entry "afterDeclarations" then .afterDeclarations
  else if flag entry "after" then .after
  else .before

/-- The descriptor of an entry that names a module. -/
def moduleDescriptor (base : Option String) (entry : Members) :
    Except String PluginDescriptor :=
  match Entries.find? moduleKey entry with
  | some (.string specifier) => do
    let importName ← importName entry
    let declared ← declaredKind entry
    let kind := if marksProgram entry then .program else declared
    return { module := resolveSpecifier specifier base, importName, kind, phase := phase entry
             beforeEmit := kind = .program, config := .object entry }
  | _ => .error "`transform` must be a module path string"

/-- Whether an entry has the older form. -/
def hasGroups (entry : Members) : Bool := (Entries.find? groupsKey entry).isSome

/-- Whether an entry names a module. -/
def namesModule (entry : Members) : Bool :=
  (Entries.find? moduleKey entry).any fun value => !value.isNull

/-- The descriptors of an entry, or what is wrong with it. -/
def descriptors (base : Option String) : Json → Except String (List PluginDescriptor)
  | .object entry => do
    let grouped ← if hasGroups entry then groupDescriptors base entry else .ok []
    let named ←
      if namesModule entry then List.singleton <$> moduleDescriptor base entry else .ok []
    return grouped ++ named
  | _ => .ok []

/-- The descriptors of entries that stand at `index` and behind it, in order; the first
malformed entry ends the reading. -/
def descriptorsFrom (base : Option String) :
    (index : Nat) → List Json → Except PluginError (List PluginDescriptor)
  | _, [] => .ok []
  | index, entry :: rest =>
    match descriptors base entry with
    | .error reason => .error (.malformedEntry index reason)
    | .ok found => do
      let others ← descriptorsFrom base (index + 1) rest
      return found ++ others

end PluginEntry

/-- The plugins that the entries of a `plugins` array configure, in order. -/
def PluginDescriptor.ofEntries (entries : List Json) (base : Option String) :
    Except PluginError (List PluginDescriptor) :=
  PluginEntry.descriptorsFrom base 0 entries

end TransformerEngine
