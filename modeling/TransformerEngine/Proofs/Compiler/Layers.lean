import Mathlib.Logic.Function.Basic
import TransformerEngine.Proofs.Compiler.Hosts

/-!
# Stacks of hosts

A `stack` is a host with others on top of it, each over the one below. Its hosts are made
once and written to at any time and in any order, the lower ones too.

Whether a file exists, what its text is and what its source file is are three questions,
each with a recursion of its own down the stack. They have one answer
(`HostSet.stack_answers`): the text that was written last to the topmost host that was
ever written a file of the name (`HostSet.topmostText`). The proof takes a stack apart
into the tables of its hosts. A write changes one table (`HostSet.write_stackOf`), and the
answers of a host are those of the tables from its own one down
(`HostSet.read_stackedHost`).
-/

namespace TransformerEngine

namespace HostSet

/-! ### Stacks and writes -/

/-- A host in a directory with so many others on top of it, all of them without files. -/
def stack (directory : String) : (overlays : Nat) → HostSet
  | 0 => HostSet.add {} { currentDirectory := directory }
  | overlays + 1 => (stack directory overlays).add { below := some overlays }

/-- A file that is written to the host of a number. -/
structure LayerWrite where
  number : Nat
  name : String
  text : String

/-- Write files to hosts, in order. -/
def writeEach (hosts : HostSet) (writes : List LayerWrite) : HostSet :=
  writes.foldl (fun hosts w => hosts.write w.number w.name w.text) hosts

/-- The files that are written to one host, in order. -/
def writtenTo (writes : List LayerWrite) (number : Nat) : List (String × String) :=
  (writes.filter (·.number = number)).map fun w => (w.name, w.text)

/-- The text that was written last for a name to the topmost one of the hosts from
`number` down that was written any. -/
def topmostText (writes : List LayerWrite) (name : String) (number : Nat) : Option String :=
  (List.range (number + 1)).reverse.findSome? fun layer => lastText (writtenTo writes layer) name

theorem topmostText_zero (writes : List LayerWrite) (name : String) :
    topmostText writes name 0 = lastText (writtenTo writes 0) name := by
  rw [topmostText, List.range_one, List.reverse_singleton, List.findSome?_singleton]

theorem topmostText_succ (writes : List LayerWrite) (name : String) (number : Nat) :
    topmostText writes name (number + 1) =
      (lastText (writtenTo writes (number + 1)) name).or (topmostText writes name number) := by
  rw [topmostText, List.range_succ, List.reverse_append, List.reverse_singleton,
    List.singleton_append, List.findSome?_cons, topmostText]
  cases lastText (writtenTo writes (number + 1)) name <;> rfl

/-! ### A stack as its tables -/

/-- The layers of a stack whose hosts hold the files of `tables`. -/
def stackOf (directory : String) (tables : Nat → Table String String) :
    (overlays : Nat) → List HostLayer
  | 0 => [{ files := tables 0, currentDirectory := directory }]
  | overlays + 1 =>
    { files := tables (overlays + 1), below := some overlays } ::
      stackOf directory tables overlays

variable {directory : String} {tables tables' : Nat → Table String String}

@[simp] theorem length_stackOf (overlays : Nat) :
    (stackOf directory tables overlays).length = overlays + 1 := by
  induction overlays with
  | zero => rfl
  | succ overlays ih => exact congrArg (· + 1) ih

/-- The top of a stack is the host whose number is how many are below. -/
theorem ne_length_stackOf {number overlays : Nat} (h : number ≠ overlays + 1) :
    number ≠ (stackOf directory tables overlays).length := by
  rwa [length_stackOf]

theorem layers_stack (directory : String) (overlays : Nat) :
    (stack directory overlays).layers = stackOf directory (fun _ => Table.empty) overlays := by
  induction overlays with
  | zero => rfl
  | succ overlays ih => exact congrArg (_ :: ·) ih

/-- Tables above the top of a stack are not its own. -/
theorem stackOf_congr {overlays : Nat} (h : ∀ layer ≤ overlays, tables layer = tables' layer) :
    stackOf directory tables overlays = stackOf directory tables' overlays := by
  induction overlays with
  | zero => rw [stackOf, stackOf, h 0 (Nat.le_refl 0)]
  | succ overlays ih =>
    rw [stackOf, stackOf, h _ (Nat.le_refl _), ih fun layer hle => h layer (Nat.le_succ_of_le hle)]

/-- **A write changes one table.** -/
theorem write_stackOf (number : Nat) (name text : String) (overlays : Nat) :
    writeTo number name text (stackOf directory tables overlays) =
      stackOf directory
        (Function.update tables number ((tables number).insert name text)) overlays := by
  induction overlays with
  | zero =>
    by_cases h : number = 0
    · subst h
      rw [stackOf, writeTo, List.length_nil, if_pos rfl, stackOf, Function.update_self]
    · rw [stackOf, writeTo, List.length_nil, if_neg h, writeTo, stackOf,
        Function.update_of_ne (Ne.symm h)]
  | succ overlays ih =>
    by_cases h : number = overlays + 1
    · -- the top is written to, and what is below keeps its tables
      subst h
      have hbelow : stackOf directory tables overlays = stackOf directory
          (Function.update tables (overlays + 1) ((tables (overlays + 1)).insert name text))
          overlays :=
        stackOf_congr fun layer hle =>
          (Function.update_of_ne (Nat.ne_of_lt (Nat.lt_succ_of_le hle)) _ _).symm
      rw [stackOf, writeTo, if_pos (length_stackOf overlays).symm, stackOf,
        Function.update_self, ← hbelow]
    · rw [stackOf, writeTo, if_neg (ne_length_stackOf h), stackOf,
        Function.update_of_ne (Ne.symm h), ih]

/-- The tables after writes. -/
def tablesAfter (tables : Nat → Table String String) (writes : List LayerWrite) :
    Nat → Table String String :=
  writes.foldl
    (fun tables w => Function.update tables w.number ((tables w.number).insert w.name w.text))
    tables

theorem writeEach_stackOf (writes : List LayerWrite) (overlays : Nat) :
    writeEach ⟨stackOf directory tables overlays⟩ writes =
      ⟨stackOf directory (tablesAfter tables writes) overlays⟩ := by
  induction writes generalizing tables with
  | nil => rfl
  | cons w rest ih =>
    have hwrite : HostSet.write ⟨stackOf directory tables overlays⟩ w.number w.name w.text =
        ⟨stackOf directory (Function.update tables w.number
          ((tables w.number).insert w.name w.text)) overlays⟩ :=
      congrArg HostSet.mk (write_stackOf w.number w.name w.text overlays)
    rw [writeEach, List.foldl_cons, hwrite]
    exact ih

theorem writtenTo_concat (writes : List LayerWrite) (w : LayerWrite) (number : Nat) :
    writtenTo (writes ++ [w]) number =
      if w.number = number then writtenTo writes number ++ [(w.name, w.text)]
      else writtenTo writes number := by
  unfold writtenTo
  rw [List.filter_append, List.map_append]
  by_cases h : w.number = number <;> simp [h]

/-- The table of a host has for each name what was written last to that host. -/
theorem find?_tablesAfter (writes : List LayerWrite) (number : Nat) (name : String) :
    (tablesAfter (fun _ => Table.empty) writes number).find? name =
      lastText (writtenTo writes number) name := by
  induction writes using List.reverseRecOn with
  | nil => rfl
  | append_singleton writes w ih =>
    rw [tablesAfter, List.foldl_append, List.foldl_cons, List.foldl_nil, ← tablesAfter,
      writtenTo_concat]
    by_cases h : w.number = number
    · subst h
      rw [Function.update_self, Table.find?_insert, if_pos rfl, lastText_concat, ih]
    · rw [Function.update_of_ne (Ne.symm h), if_neg h, ih]

/-! ### The answers of a stack -/

/-- The host of a number in a stack of such tables. -/
def stackedHost (directory : String) (tables : Nat → Table String String) : Nat → MemoryHost
  | 0 => { files := tables 0, currentDirectory := directory }
  | number + 1 =>
    { MemoryHost.layeredOn (stackedHost directory tables number).toHost with
      files := tables (number + 1) }

theorem memoryOf_stackOf {number overlays : Nat} (h : number ≤ overlays) :
    memoryOf (stackOf directory tables overlays) number =
      some (stackedHost directory tables number) := by
  induction overlays generalizing number with
  | zero =>
    obtain rfl := Nat.le_zero.mp h
    rfl
  | succ overlays ih =>
    by_cases htop : number = overlays + 1
    · subst htop
      rw [stackOf, memoryOf, if_pos (length_stackOf overlays).symm, Option.bind_some,
        ih (Nat.le_refl overlays)]
      rfl
    · rw [stackOf, memoryOf, if_neg (ne_length_stackOf htop)]
      exact ih (Nat.le_of_lt_succ (Nat.lt_of_le_of_ne h htop))

theorem read_stackedHost_succ (number : Nat) (name : String) :
    (stackedHost directory tables (number + 1)).read name =
      ((tables (number + 1)).find? name).or ((stackedHost directory tables number).read name) := by
  rw [stackedHost, MemoryHost.read]
  cases (tables (number + 1)).find? name <;> rfl

/-- **What is read is what was written on top.** -/
theorem read_stackedHost (writes : List LayerWrite) (number : Nat) (name : String) :
    (stackedHost directory (tablesAfter (fun _ => Table.empty) writes) number).read name =
      topmostText writes name number := by
  induction number with
  | zero =>
    rw [topmostText_zero, ← find?_tablesAfter, stackedHost, MemoryHost.read]
    cases (tablesAfter (fun _ => Table.empty) writes 0).find? name <;> rfl
  | succ number ih => rw [read_stackedHost_succ, topmostText_succ, find?_tablesAfter, ih]

theorem exists?_stackedHost (number : Nat) (name : String) :
    (stackedHost directory tables number).exists? name =
      ((stackedHost directory tables number).read name).isSome := by
  induction number with
  | zero => exact MemoryHost.exists_eq_isSome_read fun h hbelow => nomatch hbelow
  | succ number ih =>
    refine MemoryHost.exists_eq_isSome_read fun h hbelow => ?_
    obtain rfl := Option.some.inj hbelow
    exact ih

theorem sourceFile_stackedHost (number : Nat) (name : String) (version : ScriptTarget) :
    (stackedHost directory tables number).sourceFile name version =
      ((stackedHost directory tables number).read name).map (⟨name, ·, version⟩) := by
  induction number with
  | zero => exact MemoryHost.sourceFile_eq_map_read fun h hbelow => nomatch hbelow
  | succ number ih =>
    refine MemoryHost.sourceFile_eq_map_read fun h hbelow => ?_
    obtain rfl := Option.some.inj hbelow
    exact ih

/-! A stack of three that was written to all over. -/

namespace Sample

/-- The lowest host and the topmost one are written `a.ts`, the lowest one last; the one
in between is written `b.ts`, twice. -/
def scattered : List LayerWrite :=
  [⟨1, "b.ts", "draft"⟩, ⟨2, "a.ts", "top"⟩, ⟨1, "b.ts", "final"⟩, ⟨0, "a.ts", "bottom"⟩]

end Sample

/-- **The three lookups agree.** Whatever was written to the hosts of a stack, in whatever
order: each of them knows of a file of a name exactly if it has a text for it, and its
source file for any version has this text. It is the one that was written last to the
topmost of the hosts from this one down that were written a file of the name. And nothing
that is written to it changes a host below. -/
theorem stack_answers (directory : String) (overlays : Nat) (writes : List LayerWrite) :
    let hosts := (stack directory overlays).writeEach writes
    ∀ number ≤ overlays, ∃ host, hosts.memory? number = some host ∧
      (∀ name,
        host.read name = topmostText writes name number ∧
        (host.exists? name = true ↔ (host.read name).isSome = true) ∧
        ∀ version,
          ((host.sourceFile name version).isSome = true ↔ (host.read name).isSome = true) ∧
          host.sourceFile name version = (host.read name).map (⟨name, ·, version⟩)) ∧
      ∀ name text, ∀ lower < number,
        (hosts.write number name text).memory? lower = hosts.memory? lower := by
  intro hosts number hnumber
  have hhosts : hosts = ⟨stackOf directory (tablesAfter (fun _ => Table.empty) writes) overlays⟩ :=
    (congrArg (fun layers => writeEach ⟨layers⟩ writes) (layers_stack directory overlays)).trans
      (writeEach_stackOf writes overlays)
  refine ⟨stackedHost directory (tablesAfter (fun _ => Table.empty) writes) number, ?_, ?_, ?_⟩
  · rw [hhosts]
    exact memoryOf_stackOf hnumber
  · intro name
    refine ⟨read_stackedHost writes number name, ?_, fun version => ?_⟩
    · rw [exists?_stackedHost]
    · have hfile : (stackedHost directory (tablesAfter (fun _ => Table.empty) writes)
          number).sourceFile name version = _ := sourceFile_stackedHost number name version
      exact ⟨by rw [hfile, Option.isSome_map], hfile⟩
  · intro name text lower hlower
    exact memory_write_of_lt hlower hosts name text

/-- Seen from the top, `a.ts` is what the topmost host was written, `b.ts` what the middle
one was written last, and there is no `c.ts`. -/
theorem stack_answers_sample :
    (2 ≤ 2) ∧ ∃ host,
      ((stack "/" 2).writeEach Sample.scattered).memory? 2 = some host ∧
      host.read "a.ts" = some "top" ∧ host.exists? "b.ts" = true ∧
      host.sourceFile "b.ts" .es2020 = some ⟨"b.ts", "final", .es2020⟩ ∧
      ¬ host.exists? "c.ts" = true ∧
      (((stack "/" 2).writeEach Sample.scattered).write 2 "b.ts" "new").memory? 1 =
        ((stack "/" 2).writeEach Sample.scattered).memory? 1 := by
  obtain ⟨host, hmemory, hanswers, hframe⟩ :=
    stack_answers "/" 2 Sample.scattered 2 (Nat.le_refl 2)
  have htop : topmostText Sample.scattered "a.ts" 2 = some "top" := by decide
  have hmiddle : topmostText Sample.scattered "b.ts" 2 = some "final" := by decide
  have hnone : topmostText Sample.scattered "c.ts" 2 = none := by decide
  obtain ⟨hreadA, -, -⟩ := hanswers "a.ts"
  obtain ⟨hreadB, hexistsB, hfileB⟩ := hanswers "b.ts"
  obtain ⟨hreadC, hexistsC, -⟩ := hanswers "c.ts"
  refine ⟨Nat.le_refl 2, host, hmemory, hreadA.trans htop, ?_, ?_, ?_,
    hframe "b.ts" "new" 1 (by decide)⟩
  · rw [hexistsB, hreadB, hmiddle]
    rfl
  · rw [(hfileB .es2020).2, hreadB, hmiddle]
    rfl
  · rw [hexistsC, hreadC, hnone]
    exact Bool.false_ne_true

end HostSet

end TransformerEngine
