import TransformerEngine.Compiler.OptionsText
import TransformerEngine.Proofs.Json.Members
import TransformerEngine.Proofs.Compiler.OptionsFields

/-!
# What options are read from a text

Options are read from a text in one go, with a reader for the values of each key that refuses
what the key does not take as soon as it stands there. What comes of it is nevertheless what
the members of the object make of the options, one after the other (`parse_eq_ok_iff`): the
reader for a key reads nothing that any reader of values would not read alike
(`value_of_fieldValue`), and all that the key takes (`fieldValue_of_value`).
-/

namespace TransformerEngine.CompilerOptions

open Json (Reader Issue Found)
open Json.Reader
open PluginEntry (bind_eq_ok)

variable {depth : Nat} {c c' : Json.Cursor} {v : Json}

theorem accept_yields {α : Type} {x : Except Issue α} {a : α} :
    Yields (accept x) c a c' ↔ x = .ok a ∧ c = c' := by
  unfold accept
  split
  · rw [pure_yields, Except.ok.injEq]
  · exact iff_of_false failPending_yields fun h => nomatch h.1
  · exact iff_of_false failHere_yields fun h => nomatch h.1

/-! ### Values without containers -/

section Scalar

variable {expected : String}

theorem scalar_yields :
    Yields (scalar expected) c v c' ↔ ∀ container, Yields (scalarOr container) c v c' :=
  scalarOr_yields fun _ _ _ _ => failHere_yields

theorem value_of_scalar (h : Yields (scalar expected) c v c') : Yields (value depth) c v c' := by
  cases depth <;> exact scalar_yields.mp h _

theorem scalar_of_value (h : Yields (value depth) c v c') (hlist : ∀ vs, v ≠ .array vs)
    (hobject : ∀ members, v ≠ .object members) : Yields (scalar expected) c v c' := by
  cases depth with
  | zero => exact scalar_yields.mpr ((scalarOr_yields fun _ _ _ _ => failNext_yields).mp h)
  | succ depth =>
    obtain h | ⟨-, -, vs, -, -, rfl⟩ | ⟨-, -, list, -, -, rfl⟩ := value_succ_yields.mp h
    · exact scalar_yields.mpr h
    · exact absurd rfl (hlist vs)
    · exact absurd rfl (hobject _)

end Scalar

/-! ### Lists of values -/

section Lists

variable {item : Reader Json}

theorem listOrScalar_yields :
    Yields (listOrScalar item) c v c' ↔
      Yields (scalar "a sequence") c v c' ∨
      Opens c '[' ∧ ∃ c₁ vs, Yields advance (afterBlanks c) () c₁ ∧
        Yields (items item) c₁ vs c' ∧ .array vs = v := by
  rw [listOrScalar, skipBlanks_bind_yields]
  split
  · next hopens =>
    have hlist : Opens c '[' := ⟨.inl rfl, hopens⟩
    simp only [bind_yields, map_yields]
    constructor
    · rintro ⟨⟨⟩, c₁, hadvance, vs, hitems, rfl⟩
      exact .inr ⟨hlist, c₁, vs, hadvance, hitems, rfl⟩
    · rintro (h | ⟨-, c₁, vs, hadvance, hitems, rfl⟩)
      · exact absurd (scalar_yields.mp h) hlist.not_scalar
      · exact ⟨(), c₁, hadvance, vs, hitems, rfl⟩
  · next hopens =>
    have hsame : Yields (scalar "a sequence") (afterBlanks c) v c' ↔
        Yields (scalar "a sequence") c v c' := by
      unfold Yields scalar
      rw [scalarOr_afterBlanks]
    rw [hsame]
    exact ⟨.inl, fun h => h.resolve_right fun h => hopens h.1.2⟩

theorem textItem_yields :
    Yields textItem c v c' ↔ Yields (scalar "a string") c v c' ∧ ∃ text, v = .string text := by
  simp only [textItem, bind_yields, accept_yields, pure_yields, readText_eq_ok]
  constructor
  · rintro ⟨_, c₁, h, text, _, ⟨rfl, rfl⟩, rfl, rfl⟩
    exact ⟨h, text, rfl⟩
  · rintro ⟨h, text, rfl⟩
    exact ⟨_, c', h, text, c', ⟨rfl, rfl⟩, rfl, rfl⟩

/-- A list that is read item by item is a value, if the items are. -/
theorem value_of_listOrScalar (h : Yields (listOrScalar item) c v c')
    (hitem : ∀ c v c', Yields item c v c' → Yields (value depth) c v c') :
    Yields (value (depth + 1)) c v c' := by
  obtain h | ⟨hopens, c₁, vs, hadvance, hitems, rfl⟩ := listOrScalar_yields.mp h
  · exact value_of_scalar h
  · refine value_succ_yields.mpr (.inr (.inl ⟨hopens, c₁, vs, hadvance, ?_, rfl⟩))
    exact hitems.items_mono fun c v c' _ => hitem c v c'

/-- A list can be read item by item, if all items of the value can. -/
theorem listOrScalar_of_value (h : Yields (value (depth + 1)) c v c')
    (hobject : ∀ members, v ≠ .object members)
    (hitem : ∀ vs, v = .array vs → ∀ c i c', i ∈ vs → Yields (value depth) c i c' →
      Yields item c i c') :
    Yields (listOrScalar item) c v c' := by
  refine listOrScalar_yields.mpr ?_
  obtain h | ⟨hopens, c₁, vs, hadvance, hitems, rfl⟩ | ⟨-, -, list, -, -, rfl⟩ :=
    value_succ_yields.mp h
  · exact .inl (scalar_yields.mpr h)
  · exact .inr ⟨hopens, c₁, vs, hadvance, hitems.items_mono (hitem vs rfl), rfl⟩
  · exact absurd rfl (hobject _)

end Lists

/-! ### Values of options -/

section Values

variable {key : OptionKey}

/-- What the reader for a key reads, any reader of values reads. -/
theorem value_of_fieldValue (h : Yields (fieldValue (depth + 1) key) c v c') :
    Yields (value (depth + 1)) c v c' := by
  cases key
  case lib | types =>
    exact value_of_listOrScalar h fun c v c' hitem => value_of_scalar (textItem_yields.mp hitem).1
  case plugins => exact value_of_listOrScalar h fun _ _ _ hitem => hitem
  all_goals exact value_of_scalar h

/-- The reader for a key reads all values that the key takes. -/
theorem fieldValue_of_value (h : Yields (value (depth + 1)) c v c') (hv : key.Accepts v) :
    Yields (fieldValue (depth + 1) key) c v c' := by
  cases key
  case plugins =>
    obtain ⟨entries, rfl⟩ := hv
    exact listOrScalar_of_value h nofun fun _ _ _ _ _ _ hitem => hitem
  case lib | types =>
    obtain rfl | ⟨texts, rfl⟩ := hv
    · exact listOrScalar_of_value h nofun nofun
    -- an item need not be a text for a reader of values, but the key takes nothing else
    refine listOrScalar_of_value h nofun fun vs hvs c i c' hi hitem => ?_
    obtain rfl := Json.array.inj hvs
    obtain ⟨text, -, rfl⟩ := List.mem_map.mp hi
    exact textItem_yields.mpr ⟨scalar_of_value hitem nofun nofun, text, rfl⟩
  case target =>
    obtain rfl | ⟨text, t, rfl, -⟩ := hv <;> exact scalar_of_value h nofun nofun
  all_goals obtain rfl | ⟨x, rfl⟩ := hv <;> exact scalar_of_value h nofun nofun

end Values

/-! ### Options -/

/-- **A member is read as any member is**, and is then put to the options. -/
theorem optionMember_treats :
    Treats (depth + 1) (optionMember (depth + 1)) OptionsDraft.step := by
  intro done name c r c'
  have hstep (v : Json) :
      done.step (name, v) = done.permit name >>= fun _ => done.put name v := rfl
  simp only [hstep, optionMember]
  cases done.permit name with
  | error issue => exact iff_of_false failPending_yields fun ⟨_, _, h⟩ => nomatch h
  | ok =>
    have hput (v : Json) :
        ((.ok () : Except Issue Unit) >>= fun _ => done.put name v) = done.put name v := rfl
    simp only [hput]
    simp only [memberValue, optionValue, OptionsDraft.put, bind_yields, accept_yields]
    cases OptionKey.ofName? name with
    | none =>
      constructor
      · rintro ⟨⟨⟩, c₁, hcolon, v, c₂, hvalue, hput, rfl⟩
        exact ⟨v, ⟨(), c₁, hcolon, hvalue⟩, hput⟩
      · rintro ⟨v, ⟨⟨⟩, c₁, hcolon, hvalue⟩, hput⟩
        exact ⟨(), c₁, hcolon, v, c', hvalue, hput, rfl⟩
    | some key =>
      constructor
      · rintro ⟨⟨⟩, c₁, hcolon, v, c₂, hvalue, hput, rfl⟩
        exact ⟨v, ⟨(), c₁, hcolon, value_of_fieldValue hvalue⟩, hput⟩
      · rintro ⟨v, ⟨⟨⟩, c₁, hcolon, hvalue⟩, hput⟩
        -- the member could be put, so that the reader for the key does not refuse its value
        obtain ⟨o, hset, -⟩ := bind_eq_ok.mp hput
        have hfield := fieldValue_of_value hvalue (accepts_of_set hset).1
        exact ⟨(), c₁, hcolon, v, c', hfield, hput, rfl⟩

theorem reader_yields {o : CompilerOptions} :
    Yields (reader (depth + 1)) c o c' ↔
      ∃ members, Yields (objectReader (depth + 1)) c members c' ∧ ofMembers members = .ok o := by
  simp only [objectReader_yields, ofMembers_eq_ok]
  rw [reader, skipBlanks_bind_yields]
  split
  · next hopens =>
    simp only [bind_yields, members_yields optionMember_treats, pure_yields]
    constructor
    · rintro ⟨⟨⟩, c₁, hadvance, draft, _, ⟨members, hmembers, hfold⟩, rfl, rfl⟩
      exact ⟨members, ⟨⟨.inr rfl, hopens⟩, c₁, hadvance, hmembers⟩, draft, hfold, rfl⟩
    · rintro ⟨members, ⟨-, c₁, hadvance, hmembers⟩, draft, hfold, rfl⟩
      exact ⟨(), c₁, hadvance, draft, c', ⟨members, hmembers, hfold⟩, rfl, rfl⟩
  · next hopens =>
    refine iff_of_false (fun h => ?_) fun ⟨_, h, _⟩ => hopens h.1.2
    obtain ⟨_, _, -, h⟩ := bind_yields.mp h
    exact failHere_yields h

/-- **Options are what the members in the text make of them.** -/
theorem parse_eq_ok_iff {text : String} {o : CompilerOptions} :
    parse text = .ok o ↔
      ∃ members, Json.membersOf text = .ok members ∧ ofMembers members = .ok o := by
  unfold parse Json.membersOf
  simp only [run_eq_ok]
  constructor
  · rintro ⟨c, c', h, hend⟩
    obtain ⟨members, hmembers, hof⟩ := reader_yields.mp h
    exact ⟨members, ⟨c, c', hmembers, hend⟩, hof⟩
  · rintro ⟨members, ⟨c, c', hmembers, hend⟩, hof⟩
    exact ⟨c, c', reader_yields.mpr ⟨members, hmembers, hof⟩, hend⟩

end TransformerEngine.CompilerOptions
