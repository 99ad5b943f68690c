import TransformerEngine.Table
import TransformerEngine.Compiler.SourceFile

/-!
# Compiler hosts

A `CompilerHost` is where a compilation gets its files from. A `MemoryHost` keeps files
in a table; what its table lacks it asks of the host below it, if there is one, so that
files written to it shadow those below and leave them as they are.

The three questions a host answers about a file agree (`MemoryHost.exists_eq_isSome_read`,
`MemoryHost.sourceFile_eq_map_read`) as long as they agree on the host below.
-/

namespace TransformerEngine

/-- Where files come from. -/
structure CompilerHost where
  /-- The file of a name, read for a language version. -/
  sourceFile : String → ScriptTarget → Option SourceFile
  /-- Whether there is a file of a name. -/
  exists? : String → Bool
  /-- The text of the file of a name. -/
  read : String → Option String
  /-- The current directory. -/
  currentDirectory : String
  /-- Whether names that differ in case name different files. -/
  caseSensitive : Bool := true
  /-- What ends a line. -/
  newLine : String := "\n"

namespace CompilerHost

/-- The name under which a host knows a file: the name itself, or its lower-case form
where case does not matter. -/
def canonicalName (host : CompilerHost) (name : String) : String :=
  if host.caseSensitive then name else Text.lowercase name

/-- The host, taken to ignore the case of names. -/
def ignoringCase (host : CompilerHost) : CompilerHost := { host with caseSensitive := false }

end CompilerHost

/-- A table of files, perhaps over another host. -/
structure MemoryHost where
  /-- The files of this host itself, oldest name first. -/
  files : Table String String := Table.empty
  /-- The host asked for what the table lacks. -/
  below : Option CompilerHost := none
  /-- The current directory. -/
  currentDirectory : String

namespace MemoryHost

/-- An empty table over `host`, in the same directory. -/
def layeredOn (host : CompilerHost) : MemoryHost where
  below := some host
  currentDirectory := host.currentDirectory

/-- The host with a file written, anew or again. -/
def write (host : MemoryHost) (name text : String) : MemoryHost :=
  { host with files := host.files.insert name text }

/-- The host with files written in order. -/
def writeAll (host : MemoryHost) (files : List (String × String)) : MemoryHost :=
  files.foldl (fun h f => h.write f.1 f.2) host

/-- The names of the files of this host itself, oldest first. -/
def fileNames (host : MemoryHost) : List String := host.files.keys

/-- The file of a name, read for a language version. -/
def sourceFile (host : MemoryHost) (name : String) (version : ScriptTarget) :
    Option SourceFile :=
  match host.files.find? name with
  | some text => some ⟨name, text, version⟩
  | none => host.below.bind fun h => h.sourceFile name version

/-- Whether there is a file of a name. -/
def exists? (host : MemoryHost) (name : String) : Bool :=
  host.files.contains name || host.below.any fun h => h.exists? name

/-- The text of the file of a name. -/
def read (host : MemoryHost) (name : String) : Option String :=
  match host.files.find? name with
  | some text => some text
  | none => host.below.bind fun h => h.read name

/-- What the host answers, as a compiler host. -/
def toHost (host : MemoryHost) : CompilerHost where
  sourceFile := host.sourceFile
  exists? := host.exists?
  read := host.read
  currentDirectory := host.currentDirectory

theorem read_write (host : MemoryHost) (name name' text : String) :
    (host.write name text).read name' = if name = name' then some text else host.read name' := by
  unfold read write
  rw [Table.find?_insert]
  by_cases h : name = name' <;> simp [h]

theorem exists_eq_isSome_read {host : MemoryHost} {name : String}
    (below : ∀ h ∈ host.below, h.exists? name = (h.read name).isSome) :
    host.exists? name = (host.read name).isSome := by
  unfold exists? read Table.contains
  cases host.files.find? name with
  | some text => simp
  | none =>
    cases hb : host.below with
    | none => rfl
    | some h => simpa using below h (by simp [hb])

theorem sourceFile_eq_map_read {host : MemoryHost} {name : String} {version : ScriptTarget}
    (below : ∀ h ∈ host.below,
      h.sourceFile name version = (h.read name).map (⟨name, ·, version⟩)) :
    host.sourceFile name version = (host.read name).map (⟨name, ·, version⟩) := by
  unfold sourceFile read
  cases host.files.find? name with
  | some text => rfl
  | none =>
    cases hb : host.below with
    | none => rfl
    | some h => simpa using below h (by simp [hb])

end MemoryHost

end TransformerEngine
