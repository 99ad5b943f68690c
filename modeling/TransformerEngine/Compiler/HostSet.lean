import TransformerEngine.Compiler.Host

/-!
# Sets of layered hosts

Hosts that are made one after another, each on its own or over an earlier one, and
written to at any time. A host answers from the files that it and those below it hold
when it is asked, so a write is seen by every host above and by none below
(`HostSet.memory_write_of_lt`).
-/

namespace TransformerEngine

/-- A host of a set: its own files, and the number of the host that it lies over. -/
structure HostLayer where
  /-- The files of this host itself. -/
  files : Table String String := Table.empty
  /-- The host asked for what the files lack. -/
  below : Option Nat := none
  /-- The current directory, where no host lies below. -/
  currentDirectory : String := "/"

/-- Hosts, numbered from zero in the order in which they were made. -/
structure HostSet where
  /-- The hosts, the newest first. -/
  layers : List HostLayer := []

namespace HostSet

/-- The host of a number, as it answers now. What a layer lies over is looked for among
the older ones. -/
def memoryOf : List HostLayer → Nat → Option MemoryHost
  | [], _ => none
  | layer :: older, number =>
    if number = older.length then
      match layer.below.bind (memoryOf older) with
      | some host => some { MemoryHost.layeredOn host.toHost with files := layer.files }
      | none => some { files := layer.files, currentDirectory := layer.currentDirectory }
    else memoryOf older number

/-- The layers with a file written to the one of a number. -/
def writeTo (number : Nat) (name text : String) : List HostLayer → List HostLayer
  | [] => []
  | layer :: older =>
    if number = older.length then
      { layer with files := layer.files.insert name text } :: older
    else layer :: writeTo number name text older

/-- The number of the host made next. -/
def size (hosts : HostSet) : Nat := hosts.layers.length

/-- The set with one more host. -/
def add (hosts : HostSet) (layer : HostLayer) : HostSet := ⟨layer :: hosts.layers⟩

/-- The host of a number, as it answers now. -/
def memory? (hosts : HostSet) (number : Nat) : Option MemoryHost :=
  memoryOf hosts.layers number

/-- Write a file to the host of a number. -/
def write (hosts : HostSet) (number : Nat) (name text : String) : HostSet :=
  ⟨writeTo number name text hosts.layers⟩

@[simp] theorem length_writeTo (number : Nat) (name text : String)
    (layers : List HostLayer) : (writeTo number name text layers).length = layers.length := by
  induction layers with
  | nil => rfl
  | cons layer older ih => by_cases h : number = older.length <;> simp [writeTo, h, ih]

theorem writeTo_of_length_le {number : Nat} (name text : String) {layers : List HostLayer}
    (h : layers.length ≤ number) : writeTo number name text layers = layers := by
  induction layers with
  | nil => rfl
  | cons layer older ih =>
    have hn : number ≠ older.length := by simp at h; omega
    rw [writeTo, if_neg hn, ih (by simp at h; omega)]

theorem memoryOf_writeTo_of_lt {number lower : Nat} (h : lower < number) (name text : String)
    (layers : List HostLayer) :
    memoryOf (writeTo number name text layers) lower = memoryOf layers lower := by
  induction layers with
  | nil => rfl
  | cons layer older ih =>
    by_cases hn : number = older.length
    · have hl : lower ≠ older.length := by omega
      simp [writeTo, memoryOf, hn, hl]
    · by_cases hl : lower = older.length
      · have same : writeTo number name text older = older :=
          writeTo_of_length_le name text (by omega)
        simp [writeTo, memoryOf, hn, same]
      · simp [writeTo, memoryOf, hn, hl, ih]

theorem memory_write_of_lt {number lower : Nat} (h : lower < number) (hosts : HostSet)
    (name text : String) : (hosts.write number name text).memory? lower = hosts.memory? lower :=
  memoryOf_writeTo_of_lt h name text hosts.layers

end HostSet

end TransformerEngine
