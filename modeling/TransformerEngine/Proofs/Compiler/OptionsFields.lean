import TransformerEngine.Proofs.Plugin.Entry
import TransformerEngine.Compiler.Options

/-!
# Options field by field

A field of the options is known by what it is written as (`field?`): options with the same
fields and the same other members are the same (`ext_field?`). Reading the value of an option
sets its field, and no other (`set_eq_ok`): the key has to take the value (`OptionKey.Accepts`),
and the field is written as the value itself, but for three spellings that are not kept
(`OptionKey.canonical`): a target goes by its canonical name, and `null` and an empty list of
plugin entries are left out. What is written is accepted, and its own spelling
(`accepts_of_field?`, `canonical_of_field?`).
-/

namespace TransformerEngine

open Json (Issue)
open PluginEntry (bind_eq_ok)

/-! ### Values of known options -/

namespace OptionKey

/-- The values that an option takes: `null` for absence, except for plugin entries. -/
def Accepts : OptionKey → Json → Prop
  | target, v => v = .null ∨ ∃ text t, v = .string text ∧ ScriptTarget.ofString? text = some t
  | declaration, v | noEmit, v | noEmitOnError, v | noLib, v | noResolve, v =>
    v = .null ∨ ∃ b, v = .bool b
  | outDir, v | rootDir, v => v = .null ∨ ∃ text, v = .string text
  | lib, v | types, v => v = .null ∨ ∃ texts : List String, v = .array (texts.map .string)
  | plugins, v => ∃ entries, v = .array entries

/-- What a value that is read is written as, if it is written. -/
def canonical : OptionKey → Json → Option Json
  | _, .null => none
  | target, .string text => (ScriptTarget.ofString? text).map fun t => .string t.name
  | plugins, .array entries => if entries = [] then none else some (.array entries)
  | _, v => some v

end OptionKey

namespace CompilerOptions

variable {options o : CompilerOptions} {key : OptionKey} {v : Json}

/-! ### Reading one value -/

theorem readFlag_eq_ok {b : Bool} : readFlag v = .ok b ↔ v = .bool b := by
  cases v <;> simp [readFlag, mismatch]

theorem readText_eq_ok {text : String} : readText v = .ok text ↔ v = .string text := by
  cases v <;> simp [readText, mismatch]

theorem readTarget_eq_ok {t : ScriptTarget} :
    readTarget v = .ok t ↔ ∃ text, v = .string text ∧ ScriptTarget.ofString? text = some t := by
  unfold readTarget
  rw [bind_eq_ok]
  refine exists_congr fun text => and_congr readText_eq_ok ?_
  cases ScriptTarget.ofString? text <;> simp

theorem mapM_readText_eq_ok {items : List Json} {texts : List String} :
    items.mapM readText = .ok texts ↔ items = texts.map .string := by
  induction items generalizing texts with
  | nil => cases texts <;> simp [pure, Except.pure]
  | cons item items ih =>
    simp only [List.mapM_cons, bind_eq_ok, readText_eq_ok, ih]
    constructor
    · rintro ⟨text, rfl, rest, rfl, h⟩
      rw [← Except.ok.inj h]
      rfl
    · intro h
      cases texts with
      | nil => exact nomatch h
      | cons text texts =>
        obtain ⟨rfl, rfl⟩ := List.cons.inj h
        exact ⟨text, rfl, texts, rfl, rfl⟩

theorem readTexts_eq_ok {texts : List String} :
    readTexts v = .ok texts ↔ v = .array (texts.map .string) := by
  cases v <;> simp [readTexts, mismatch, mapM_readText_eq_ok]

theorem readNullable_eq_ok {α : Type} {read : Json → Except Issue α} {x : Option α} :
    readNullable read v = .ok x ↔
      (v = .null ∧ x = none) ∨ (v ≠ .null ∧ ∃ a, read v = .ok a ∧ x = some a) := by
  by_cases hnull : v = .null
  · subst hnull
    simp [readNullable, eq_comm]
  · have hread : readNullable read v = some <$> read v := by
      cases v <;> first | rfl | exact absurd rfl hnull
    rw [hread, map_eq_pure_bind, bind_eq_ok]
    constructor
    · rintro ⟨a, ha, hx⟩
      exact .inr ⟨hnull, a, ha, (Except.ok.inj hx).symm⟩
    · rintro (⟨h, -⟩ | ⟨-, a, ha, rfl⟩)
      · exact absurd h hnull
      · exact ⟨a, ha, rfl⟩

/-! ### Setting one field -/

/-- A value that is read is one that the key takes, and sets its field. -/
theorem accepts_of_set (h : options.set key v = .ok o) :
    key.Accepts v ∧ o.field? key = key.canonical v := by
  cases key
  case plugins =>
    cases v with
    | array entries =>
      obtain rfl := Except.ok.inj h
      exact ⟨⟨entries, rfl⟩, rfl⟩
    | _ => exact nomatch h
  -- all the others take `null`, too
  all_goals
    obtain ⟨x, hx, h⟩ := bind_eq_ok.mp h
    obtain rfl := Except.ok.inj h
    obtain ⟨rfl, rfl⟩ | ⟨-, a, ha, rfl⟩ := readNullable_eq_ok.mp hx
    · exact ⟨.inl rfl, rfl⟩
  case target =>
    obtain ⟨text, rfl, ht⟩ := readTarget_eq_ok.mp ha
    refine ⟨.inr ⟨text, a, rfl, ht⟩, ?_⟩
    simp only [OptionKey.canonical, ht]
    rfl
  case declaration | noEmit | noEmitOnError | noLib | noResolve =>
    obtain rfl := readFlag_eq_ok.mp ha
    exact ⟨.inr ⟨a, rfl⟩, rfl⟩
  case outDir | rootDir =>
    obtain rfl := readText_eq_ok.mp ha
    exact ⟨.inr ⟨a, rfl⟩, rfl⟩
  case lib | types =>
    obtain rfl := readTexts_eq_ok.mp ha
    exact ⟨.inr ⟨a, rfl⟩, rfl⟩

/-- All that a value which is read sets is its field. -/
theorem untouched_of_set (h : options.set key v = .ok o) :
    (∀ k, k ≠ key → o.field? k = options.field? k) ∧ o.other = options.other := by
  cases key
  case plugins =>
    cases v with
    | array entries =>
      obtain rfl := Except.ok.inj h
      exact ⟨fun k hk => by cases k <;> first | rfl | exact absurd rfl hk, rfl⟩
    | _ => exact nomatch h
  all_goals
    obtain ⟨x, -, h⟩ := bind_eq_ok.mp h
    obtain rfl := Except.ok.inj h
    exact ⟨fun k hk => by cases k <;> first | rfl | exact absurd rfl hk, rfl⟩

/-- A value that the key takes is read. -/
theorem exists_set (options : CompilerOptions) (h : key.Accepts v) :
    ∃ o, options.set key v = .ok o := by
  cases key
  case plugins =>
    obtain ⟨entries, rfl⟩ := h
    exact ⟨_, rfl⟩
  all_goals
    obtain rfl | h := h
    · exact ⟨_, rfl⟩
  case target =>
    obtain ⟨text, t, rfl, ht⟩ := h
    have hread := readTarget_eq_ok.mpr ⟨text, rfl, ht⟩
    exact ⟨_, bind_eq_ok.mpr ⟨_, readNullable_eq_ok.mpr (.inr ⟨nofun, t, hread, rfl⟩), rfl⟩⟩
  case declaration | noEmit | noEmitOnError | noLib | noResolve =>
    obtain ⟨b, rfl⟩ := h
    exact ⟨_, rfl⟩
  case outDir | rootDir =>
    obtain ⟨text, rfl⟩ := h
    exact ⟨_, rfl⟩
  case lib | types =>
    obtain ⟨texts, rfl⟩ := h
    have hread := readTexts_eq_ok.mpr (Eq.refl (Json.array (texts.map .string)))
    exact ⟨_, bind_eq_ok.mpr ⟨_, readNullable_eq_ok.mpr (.inr ⟨nofun, texts, hread, rfl⟩), rfl⟩⟩

/-! ### What is written -/

/-- Plugin entries are known by what they are written as, if they are written. -/
theorem plugins_injective : Function.Injective fun entries : List Json =>
    if entries = [] then none else some (Json.array entries) := by
  intro entries entries' h
  dsimp only at h
  split at h <;> split at h
  · next hnil hnil' => exact hnil.trans hnil'.symm
  · exact nomatch h
  · exact nomatch h
  · exact Json.array.inj (Option.some.inj h)

/-- Options are known by what they are written as. -/
theorem ext_field? {a b : CompilerOptions} (hfield : ∀ key, a.field? key = b.field? key)
    (hother : a.other = b.other) : a = b := by
  have hbool : Function.Injective Json.bool := fun _ _ h => Json.bool.inj h
  have htext : Function.Injective Json.string := fun _ _ h => Json.string.inj h
  have htexts : Function.Injective fun names : List String => Json.array (names.map .string) :=
    fun _ _ h => List.map_injective_iff.mpr htext (Json.array.inj h)
  have htarget : Function.Injective fun t : ScriptTarget => Json.string t.name := by
    intro t t' h
    have hname := congrArg ScriptTarget.ofString? (htext h)
    rw [ScriptTarget.ofString?_name, ScriptTarget.ofString?_name] at hname
    exact Option.some.inj hname
  -- an empty list of entries is not written, which tells it from all others
  have hplugins : a.plugins = b.plugins := plugins_injective (hfield .plugins)
  obtain ⟨⟩ := a
  obtain ⟨⟩ := b
  congr 1
  · exact Option.map_injective htarget (hfield .target)
  · exact Option.map_injective hbool (hfield .declaration)
  · exact Option.map_injective hbool (hfield .noEmit)
  · exact Option.map_injective hbool (hfield .noEmitOnError)
  · exact Option.map_injective hbool (hfield .noLib)
  · exact Option.map_injective hbool (hfield .noResolve)
  · exact Option.map_injective htext (hfield .outDir)
  · exact Option.map_injective htext (hfield .rootDir)
  · exact Option.map_injective htexts (hfield .lib)
  · exact Option.map_injective htexts (hfield .types)

/-- What is written is accepted, and is its own spelling. -/
theorem accepts_of_field? (h : o.field? key = some v) :
    key.Accepts v ∧ key.canonical v = some v := by
  cases key
  case plugins =>
    obtain ⟨hne, hv⟩ := Option.ite_none_left_eq_some.mp h
    obtain rfl := Option.some.inj hv
    exact ⟨⟨o.plugins, rfl⟩, if_neg hne⟩
  all_goals
    obtain ⟨a, -, rfl⟩ := Option.map_eq_some_iff.mp h
  case target =>
    have ht := ScriptTarget.ofString?_name a
    refine ⟨.inr ⟨a.name, a, rfl, ht⟩, ?_⟩
    simp only [OptionKey.canonical, ht]
    rfl
  all_goals exact ⟨.inr ⟨a, rfl⟩, rfl⟩

/-! ### Members -/

theorem ofMembers_eq_ok {members : List (String × Json)} :
    ofMembers members = .ok o ↔
      ∃ draft, members.foldlM OptionsDraft.step {} = .ok draft ∧ draft.options = o := by
  unfold ofMembers
  rw [map_eq_pure_bind, bind_eq_ok]
  exact exists_congr fun draft => and_congr_right fun _ => ⟨Except.ok.inj, congrArg Except.ok⟩

end CompilerOptions

end TransformerEngine
