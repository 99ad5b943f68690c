import Mathlib.Data.List.Induction
import TransformerEngine.Compiler.Program

/-!
# What a program is made of

A program has the files of those of its roots that its host has, each once and where the
root stands first (`Program.create_entries`), and it says of every root that the host lacks,
as often as it is asked for, that it was not found (`Program.create_diagnostics`).
-/

namespace TransformerEngine

/-- A new key is written behind the others. -/
theorem Entries.insert_of_not_mem {κ ν : Type} [DecidableEq κ] {key : κ} {value : ν}
    {entries : List (κ × ν)} (h : key ∉ Entries.keys entries) :
    Entries.insert key value entries = entries ++ [(key, value)] := by
  induction entries with
  | nil => rfl
  | cons e rest ih =>
    obtain ⟨hne, hrest⟩ := not_or.mp (List.mem_cons.not.mp h)
    rw [Entries.insert, if_neg fun heq => hne heq.symm, ih hrest]
    rfl

namespace Program

/-- The files that `supply` has of the names, each once, where the name stands first. -/
def suppliedFiles (supply : String → Option SourceFile) (names : List String) :
    List (String × SourceFile) :=
  names.eraseDups.filterMap fun name => (supply name).map (name, ·)

theorem mem_keys_suppliedFiles {supply : String → Option SourceFile} {names : List String}
    {name : String} :
    name ∈ Entries.keys (suppliedFiles supply names) ↔ name ∈ names ∧ (supply name).isSome := by
  unfold Entries.keys suppliedFiles
  constructor
  · intro h
    obtain ⟨⟨name', file⟩, hmem, rfl⟩ := List.mem_map.mp h
    obtain ⟨name'', hname, heq⟩ := List.mem_filterMap.mp hmem
    obtain ⟨file', hfile, hpair⟩ := Option.map_eq_some_iff.mp heq
    obtain ⟨rfl, rfl⟩ := Prod.mk.inj hpair
    exact ⟨List.mem_eraseDups.mp hname, by rw [hfile]; rfl⟩
  · rintro ⟨hname, hsome⟩
    obtain ⟨file, hfile⟩ := Option.isSome_iff_exists.mp hsome
    refine List.mem_map.mpr ⟨(name, file), List.mem_filterMap.mpr ⟨name, ?_, ?_⟩, rfl⟩
    · exact List.mem_eraseDups.mpr hname
    · rw [hfile]
      rfl

/-- A name that comes last adds its file, unless it came before. -/
theorem suppliedFiles_concat {supply : String → Option SourceFile} {names : List String}
    {name : String} :
    suppliedFiles supply (names ++ [name]) =
      if name ∈ names then suppliedFiles supply names
      else suppliedFiles supply names ++ ((supply name).map (name, ·)).toList := by
  unfold suppliedFiles
  rw [List.eraseDups_append]
  by_cases h : name ∈ names
  · rw [List.removeAll, List.filter_cons_of_neg (by simpa using h), if_pos h]
    exact congrArg _ (List.append_nil _)
  · rw [List.removeAll, List.filter_cons_of_pos (by simpa using h), if_neg h,
      List.filterMap_append]
    cases hfile : supply name with
    | none => simp [List.eraseDups_cons, hfile]
    | some file => simp [List.eraseDups_cons, hfile]

/-- Those of the names that `supply` has no file of, as often as they occur. -/
def missingNames (supply : String → Option SourceFile) (names : List String) : List String :=
  names.filter fun name => (supply name).isNone

/-- **Root by root.** What is found and what is missing after some of the roots. -/
theorem foldl_addRoot (host : CompilerHost) (target : ScriptTarget) (roots : List String) :
    let found := roots.foldl (addRoot host target) (Table.empty, [])
    found.1.entries = suppliedFiles (host.sourceFile · target) roots ∧
      found.2 = (missingNames (host.sourceFile · target) roots).map fileNotFound := by
  induction roots using List.reverseRecOn with
  | nil => exact ⟨rfl, rfl⟩
  | append_singleton roots name ih =>
    obtain ⟨hfiles, hmissing⟩ := ih
    rw [List.foldl_append, List.foldl_cons, List.foldl_nil]
    generalize roots.foldl (addRoot host target) (Table.empty, []) = found at hfiles hmissing
    have hcontains : found.1.contains name = true ↔
        name ∈ roots ∧ (host.sourceFile name target).isSome := by
      rw [Table.contains_iff, Table.keys, hfiles, mem_keys_suppliedFiles]
    unfold missingNames at hmissing ⊢
    rw [List.filter_append, List.map_append, suppliedFiles_concat]
    cases hfile : host.sourceFile name target with
    | none =>
      -- a root that the host lacks was not found before either
      have hnot : ¬found.1.contains name = true := by simp [hcontains, hfile]
      rw [addRoot, if_neg hnot, hfile]
      simp [hfiles, hmissing, hfile]
    | some file =>
      by_cases hroot : name ∈ roots
      · rw [addRoot, if_pos (hcontains.mpr ⟨hroot, by rw [hfile]; rfl⟩), if_pos hroot]
        simp [hfiles, hmissing, hfile]
      · have hnot : ¬found.1.contains name = true := fun h => hroot (hcontains.mp h).1
        have hkey : name ∉ Entries.keys found.1.entries :=
          fun h => hnot ((Table.contains_iff ..).mpr h)
        rw [addRoot, if_neg hnot, if_neg hroot, hfile]
        refine ⟨?_, by simp [hmissing, hfile]⟩
        exact (Entries.insert_of_not_mem hkey).trans (by rw [hfiles]; rfl)

variable (roots : List String) (options : CompilerOptions) (host : CompilerHost) (id : ProgramId)

/-- **The files of a program** are those that the host has of its roots, each once. -/
theorem create_entries :
    (create roots options host id).sourceFiles.entries =
      suppliedFiles (host.sourceFile · options.scriptTarget) roots :=
  (foldl_addRoot host options.scriptTarget roots).1

/-- **The diagnostics of a program** are about the roots that the host lacks. -/
theorem create_diagnostics :
    (create roots options host id).diagnostics =
      (missingNames (host.sourceFile · options.scriptTarget) roots).map fileNotFound :=
  (foldl_addRoot host options.scriptTarget roots).2

end Program

end TransformerEngine
