/-!
# Insertion-ordered tables

A `Table κ ν` maps keys to values and remembers the order in which its keys first
arrived. Writing to a key that is already there replaces the value where it stands;
writing to a new key appends it. Files of a host, source files of a program, named
exports of a module and members of a JSON object are all kept this way.

The operations are first given on bare entry lists (`Entries`), where JSON objects
use them directly, and then lifted to `Table`, which carries the proof that no key
occurs twice.

* `Table.find?_insert` reads a table after a write.
* `Table.keys_insert` gives the order of the keys after a write.
-/

namespace TransformerEngine

universe u v

variable {κ : Type u} {ν : Type v} [DecidableEq κ]

/-! ### Entry lists -/

namespace Entries

/-- The value of the first entry under `key`. -/
def find? (key : κ) : List (κ × ν) → Option ν
  | [] => none
  | (k, v) :: rest => if k = key then some v else find? key rest

/-- Write `value` under `key`: in place where the key stands, at the end if it is new. -/
def insert (key : κ) (value : ν) : List (κ × ν) → List (κ × ν)
  | [] => [(key, value)]
  | (k, v) :: rest => if k = key then (k, value) :: rest else (k, v) :: insert key value rest

/-- The keys, in order. -/
def keys (entries : List (κ × ν)) : List κ := entries.map Prod.fst

omit [DecidableEq κ] in
@[simp] theorem keys_nil : keys ([] : List (κ × ν)) = [] := rfl

omit [DecidableEq κ] in
@[simp] theorem keys_cons (e : κ × ν) (rest : List (κ × ν)) :
    keys (e :: rest) = e.1 :: keys rest := rfl

theorem find?_insert (key key' : κ) (value : ν) (entries : List (κ × ν)) :
    find? key' (insert key value entries) =
      if key = key' then some value else find? key' entries := by
  induction entries with
  | nil => rfl
  | cons e rest ih =>
    obtain ⟨k, v⟩ := e
    by_cases h : k = key
    · subst h
      by_cases h' : k = key' <;> simp [insert, find?, h']
    · by_cases h' : k = key'
      · subst h'
        simp [insert, find?, h, Ne.symm h]
      · simp [insert, find?, h, h', ih]

theorem keys_insert (key : κ) (value : ν) (entries : List (κ × ν)) :
    keys (insert key value entries) =
      if key ∈ keys entries then keys entries else keys entries ++ [key] := by
  induction entries with
  | nil => simp [insert, keys]
  | cons e rest ih =>
    obtain ⟨k, v⟩ := e
    by_cases h : k = key
    · simp [insert, h]
    · by_cases hm : key ∈ keys rest <;> simp [insert, h, Ne.symm h, ih, hm]

theorem find?_isSome (key : κ) (entries : List (κ × ν)) :
    (find? key entries).isSome = true ↔ key ∈ keys entries := by
  induction entries with
  | nil => simp [find?]
  | cons e rest ih =>
    obtain ⟨k, v⟩ := e
    by_cases h : k = key
    · simp [find?, h]
    · simp [find?, h, Ne.symm h, ih]

theorem nodup_keys_insert (key : κ) (value : ν) {entries : List (κ × ν)}
    (h : (keys entries).Nodup) : (keys (insert key value entries)).Nodup := by
  rw [keys_insert]
  split
  · exact h
  · next hm =>
    rw [List.nodup_append]
    refine ⟨h, by simp, ?_⟩
    intro a ha b hb hab
    simp only [List.mem_singleton] at hb
    exact hm (hb ▸ hab ▸ ha)

end Entries

/-! ### Tables -/

/-- Keys with their values, each key once, in the order the keys first arrived. -/
structure Table (κ : Type u) (ν : Type v) where
  /-- The entries, oldest key first. -/
  entries : List (κ × ν) := []
  /-- No key occurs twice. -/
  nodup : (Entries.keys entries).Nodup := by simp

namespace Table

omit [DecidableEq κ] in
@[ext] theorem ext {s t : Table κ ν} (h : s.entries = t.entries) : s = t := by
  cases s; cases t; cases h; rfl

instance [DecidableEq ν] : DecidableEq (Table κ ν) := fun s t =>
  decidable_of_iff (s.entries = t.entries) ⟨Table.ext, fun h => h ▸ rfl⟩

/-- The table without entries. -/
def empty : Table κ ν := {}

instance : Inhabited (Table κ ν) := ⟨empty⟩

/-- The value under `key`. -/
def find? (table : Table κ ν) (key : κ) : Option ν := Entries.find? key table.entries

/-- Whether `key` has a value. -/
def contains (table : Table κ ν) (key : κ) : Bool := (table.find? key).isSome

/-- Write `value` under `key`, in place where the key already stands. -/
def insert (table : Table κ ν) (key : κ) (value : ν) : Table κ ν where
  entries := Entries.insert key value table.entries
  nodup := Entries.nodup_keys_insert key value table.nodup

/-- The keys, oldest first. -/
def keys (table : Table κ ν) : List κ := Entries.keys table.entries

/-- The values, in the order of their keys. -/
def values (table : Table κ ν) : List ν := table.entries.map Prod.snd

/-- How many keys the table has. -/
def size (table : Table κ ν) : Nat := table.entries.length

/-- The table written entry by entry: a repeated key keeps its first place and takes
its last value. -/
def ofList (entries : List (κ × ν)) : Table κ ν :=
  entries.foldl (fun table e => table.insert e.1 e.2) empty

/-- Keep the entries that satisfy `keep`, in order. -/
def filter (table : Table κ ν) (keep : κ → ν → Bool) : Table κ ν where
  entries := table.entries.filter fun e => keep e.1 e.2
  nodup := by
    have h := table.nodup
    unfold Entries.keys at h ⊢
    exact h.sublist (List.Sublist.map _ List.filter_sublist)

/-- Remove `key`. -/
def erase (table : Table κ ν) (key : κ) : Table κ ν :=
  table.filter fun k _ => k != key

@[simp] theorem find?_empty (key : κ) : (empty : Table κ ν).find? key = none := rfl

omit [DecidableEq κ] in
@[simp] theorem keys_empty : (empty : Table κ ν).keys = [] := rfl

@[simp] theorem find?_insert (table : Table κ ν) (key key' : κ) (value : ν) :
    (table.insert key value).find? key' =
      if key = key' then some value else table.find? key' :=
  Entries.find?_insert key key' value table.entries

@[simp] theorem keys_insert (table : Table κ ν) (key : κ) (value : ν) :
    (table.insert key value).keys =
      if key ∈ table.keys then table.keys else table.keys ++ [key] :=
  Entries.keys_insert key value table.entries

theorem contains_iff (table : Table κ ν) (key : κ) :
    table.contains key = true ↔ key ∈ table.keys :=
  Entries.find?_isSome key table.entries

theorem contains_insert (table : Table κ ν) (key key' : κ) (value : ν) :
    (table.insert key value).contains key' =
      (decide (key = key') || table.contains key') := by
  unfold contains
  rw [find?_insert]
  by_cases h : key = key' <;> simp [h]

end Table

end TransformerEngine
