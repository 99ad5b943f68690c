import Mathlib.Data.List.Induction
import TransformerEngine.Compiler.HostSet

/-!
# Writing to hosts

A host that was written to answers with the text that was written last for a name, and
with what it had before where none was (`MemoryHost.sourceFile_writeAll`). In a set of
hosts, the one that was written to is the same host with these files
(`HostSet.memory_writeAll`), and those that it may lie over are as they were
(`HostSet.memory_writeAll_of_lt`).
-/

namespace TransformerEngine

/-- The text that was written last for a name. -/
def lastText (files : List (String × String)) (name : String) : Option String :=
  (files.reverse.find? fun f => f.1 = name).map Prod.snd

theorem lastText_concat (files : List (String × String)) (file : String × String)
    (name : String) :
    lastText (files ++ [file]) name =
      if file.1 = name then some file.2 else lastText files name := by
  unfold lastText
  rw [List.reverse_append, List.reverse_singleton, List.singleton_append, List.find?_cons]
  by_cases h : file.1 = name <;> simp [h]

namespace MemoryHost

variable (host : MemoryHost)

theorem writeAll_append (files more : List (String × String)) :
    host.writeAll (files ++ more) = (host.writeAll files).writeAll more :=
  List.foldl_append

/-- All that is written to a host goes into its own table, and the host below stays. -/
theorem writeAll_eq (files : List (String × String)) :
    host.writeAll files =
      { host with files := files.foldl (fun table f => table.insert f.1 f.2) host.files } := by
  induction files generalizing host with
  | nil => rfl
  | cons file rest ih => exact ih (host.write file.1 file.2)

theorem sourceFile_write (name text name' : String) (version : ScriptTarget) :
    (host.write name text).sourceFile name' version =
      if name = name' then some ⟨name', text, version⟩ else host.sourceFile name' version := by
  unfold sourceFile write
  rw [Table.find?_insert]
  by_cases h : name = name' <;> simp [h]

/-- **The last text written is the one that is read.** -/
theorem sourceFile_writeAll (files : List (String × String)) (name : String)
    (version : ScriptTarget) :
    (host.writeAll files).sourceFile name version =
      match lastText files name with
      | some text => some ⟨name, text, version⟩
      | none => host.sourceFile name version := by
  induction files using List.reverseRecOn with
  | nil => rfl
  | append_singleton files file ih =>
    rw [writeAll_append, lastText_concat]
    refine (sourceFile_write _ file.1 file.2 name version).trans ?_
    by_cases h : file.1 = name
    · rw [if_pos h, if_pos h]
    · rw [if_neg h, if_neg h, ih]

end MemoryHost

namespace HostSet

/-- Write files to the host of a number, in order. -/
def writeAll (hosts : HostSet) (number : Nat) (files : List (String × String)) : HostSet :=
  files.foldl (fun hosts f => hosts.write number f.1 f.2) hosts

theorem memoryOf_writeTo (number : Nat) (name text : String) (layers : List HostLayer) :
    memoryOf (writeTo number name text layers) number =
      (memoryOf layers number).map fun host => host.write name text := by
  induction layers with
  | nil => rfl
  | cons layer older ih =>
    by_cases h : number = older.length
    · rw [writeTo, if_pos h, memoryOf, if_pos h, memoryOf, if_pos h]
      cases layer.below.bind (memoryOf older) <;> rfl
    · rw [writeTo, if_neg h, memoryOf, length_writeTo, if_neg h, memoryOf, if_neg h]
      exact ih

/-- **A host sees what is written to it.** -/
theorem memory_writeAll (hosts : HostSet) {number : Nat} {host : MemoryHost}
    (h : hosts.memory? number = some host) (files : List (String × String)) :
    (hosts.writeAll number files).memory? number = some (host.writeAll files) := by
  induction files generalizing hosts host with
  | nil => exact h
  | cons file rest ih =>
    refine ih (hosts.write number file.1 file.2) ?_
    exact (memoryOf_writeTo number file.1 file.2 hosts.layers).trans
      (congrArg (Option.map fun host => host.write file.1 file.2) h)

/-- **Hosts that are older than the one that is written to answer as before.** -/
theorem memory_writeAll_of_lt (hosts : HostSet) {number lower : Nat} (h : lower < number)
    (files : List (String × String)) :
    (hosts.writeAll number files).memory? lower = hosts.memory? lower := by
  induction files generalizing hosts with
  | nil => rfl
  | cons file rest ih =>
    exact (ih (hosts.write number file.1 file.2)).trans
      (memory_write_of_lt h hosts file.1 file.2)

end HostSet

end TransformerEngine
