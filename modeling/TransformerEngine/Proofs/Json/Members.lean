import TransformerEngine.Proofs.Json.Steps

/-!
# The members of an object as they are written

A JSON object is read member by member, and what is done with a member is up to the reader of
the object: a value keeps the last one of each key, options keep the known ones apart. What
they have in common is the list of members as it stands in the text, repeated keys included
(`memberList`): a reader that treats each member by a step of its own comes to what these steps
make of that list (`members_yields`). For values this is `parse_of_membersOf`.

Values are read alike whoever reads them. A reader of values that lets containers be read by
another one differs only in front of a bracket (`scalarOr_cases`), and lists are read alike if
their items are (`Yields.itemsTail_mono`).
-/

namespace TransformerEngine.Json

namespace Reader

variable {σ ε : Type}

/-! ### Members -/

/-- The value of a member, from behind its key. -/
def memberValue (depth : Nat) : Reader Json := do
  colon
  value depth

/-- The members of an object in whose values containers nest at most `depth` deep, as they are
written, up to and with its closing bracket. -/
def memberList (depth : Nat) : (steps : Nat) → (first : Bool) → Reader (List (String × Json))
  | 0, _ => failHere (.unexpectedEnd .object)
  | steps + 1, first => do
    match ← nextKey first with
    | none => return []
    | some key =>
      let v ← memberValue depth
      let rest ← memberList depth steps false
      return (key, v) :: rest

section Turns

variable {depth steps : Nat} {first : Bool} {done r : σ} {c c' : Cursor}

/-- The loop over members ends, or there is a key, and a member behind it. -/
theorem membersTail_succ_yields {member : σ → String → Reader σ} :
    Yields (membersTail member (steps + 1) first done) c r c' ↔
      (Yields (nextKey first) c none c' ∧ done = r) ∨
      ∃ key c₁ now c₂, Yields (nextKey first) c (some key) c₁ ∧
        Yields (member done key) c₁ now c₂ ∧
        Yields (membersTail member steps false now) c₂ r c' := by
  rw [membersTail_succ, bind_yields]
  constructor
  · rintro ⟨key?, c₁, hkey, hrest⟩
    cases key? with
    | none =>
      obtain ⟨rfl, rfl⟩ := pure_yields.mp hrest
      exact .inl ⟨hkey, rfl⟩
    | some key =>
      obtain ⟨now, c₂, hmember, htail⟩ := bind_yields.mp hrest
      exact .inr ⟨key, c₁, now, c₂, hkey, hmember, htail⟩
  · rintro (⟨hkey, rfl⟩ | ⟨key, c₁, now, c₂, hkey, hmember, htail⟩)
    · exact ⟨none, c', hkey, pure_yields.mpr ⟨rfl, rfl⟩⟩
    · exact ⟨some key, c₁, hkey, bind_yields.mpr ⟨now, c₂, hmember, htail⟩⟩

/-- The list of members ends, or there is a key with its value, and more of the list. -/
theorem memberList_succ_yields {list : List (String × Json)} :
    Yields (memberList depth (steps + 1) first) c list c' ↔
      (Yields (nextKey first) c none c' ∧ [] = list) ∨
      ∃ key c₁ v c₂ rest, Yields (nextKey first) c (some key) c₁ ∧
        Yields (memberValue depth) c₁ v c₂ ∧
        Yields (memberList depth steps false) c₂ rest c' ∧ (key, v) :: rest = list := by
  rw [memberList, bind_yields]
  constructor
  · rintro ⟨key?, c₁, hkey, hrest⟩
    cases key? with
    | none =>
      obtain ⟨rfl, rfl⟩ := pure_yields.mp hrest
      exact .inl ⟨hkey, rfl⟩
    | some key =>
      obtain ⟨v, c₂, hvalue, hlist⟩ := bind_yields.mp hrest
      obtain ⟨rest, c₃, htail, hpure⟩ := bind_yields.mp hlist
      obtain ⟨rfl, rfl⟩ := pure_yields.mp hpure
      exact .inr ⟨key, c₁, v, c₂, rest, hkey, hvalue, htail, rfl⟩
  · rintro (⟨hkey, rfl⟩ | ⟨key, c₁, v, c₂, rest, hkey, hvalue, htail, rfl⟩)
    · exact ⟨none, c', hkey, pure_yields.mpr ⟨rfl, rfl⟩⟩
    · refine ⟨some key, c₁, hkey, bind_yields.mpr ⟨v, c₂, hvalue, bind_yields.mpr ?_⟩⟩
      exact ⟨rest, c', htail, pure_yields.mpr ⟨rfl, rfl⟩⟩

end Turns

/-- A member is read as any value is, and then put to what there is by a step. -/
def Treats (depth : Nat) (member : σ → String → Reader σ)
    (step : σ → String × Json → Except ε σ) : Prop :=
  ∀ done key c r c', Yields (member done key) c r c' ↔
    ∃ v, Yields (memberValue depth) c v c' ∧ step done (key, v) = .ok r

section Members

variable {depth : Nat} {member : σ → String → Reader σ} {step : σ → String × Json → Except ε σ}
variable {done r : σ} {c c' : Cursor}

/-- **Member by member.** -/
theorem membersTail_yields (h : Treats depth member step) {steps : Nat} {first : Bool} :
    Yields (membersTail member steps first done) c r c' ↔
      ∃ list, Yields (memberList depth steps first) c list c' ∧ list.foldlM step done = .ok r := by
  induction steps generalizing first done c with
  | zero => exact iff_of_false failHere_yields fun ⟨_, hlist, _⟩ => failHere_yields hlist
  | succ steps ih =>
    rw [membersTail_succ_yields]
    constructor
    · rintro (⟨hkey, rfl⟩ | ⟨key, c₁, now, c₂, hkey, hmember, htail⟩)
      · exact ⟨[], memberList_succ_yields.mpr (.inl ⟨hkey, rfl⟩), rfl⟩
      · obtain ⟨v, hvalue, hstep⟩ := (h done key c₁ now c₂).mp hmember
        obtain ⟨rest, hrest, hfold⟩ := ih.mp htail
        refine ⟨(key, v) :: rest, memberList_succ_yields.mpr (.inr ?_), ?_⟩
        · exact ⟨key, c₁, v, c₂, rest, hkey, hvalue, hrest, rfl⟩
        · rw [List.foldlM_cons, hstep]
          exact hfold
    · rintro ⟨list, hlist, hfold⟩
      rcases memberList_succ_yields.mp hlist with
        ⟨hkey, rfl⟩ | ⟨key, c₁, v, c₂, rest, hkey, hvalue, hrest, rfl⟩
      · exact .inl ⟨hkey, Except.ok.inj hfold⟩
      · rw [List.foldlM_cons] at hfold
        cases hstep : step done (key, v) with
        | error e => rw [hstep] at hfold; exact nomatch hfold
        | ok now =>
          rw [hstep] at hfold
          refine .inr ⟨key, c₁, now, c₂, hkey, ?_, ih.mpr ⟨rest, hrest, hfold⟩⟩
          exact (h done key c₁ now c₂).mpr ⟨v, hvalue, hstep⟩

/-- The members of an object as they are written, from behind its opening bracket. -/
def objectMembers (depth : Nat) : Reader (List (String × Json)) := do
  memberList depth ((← remaining) + 1) true

theorem members_yields (h : Treats depth member step) :
    Yields (members done member) c r c' ↔
      ∃ list, Yields (objectMembers depth) c list c' ∧ list.foldlM step done = .ok r := by
  have hmembers : Yields (members done member) c r c' ↔
      Yields (settle (membersTail member (c.rest.length + 1) true done)) c r c' := Iff.rfl
  rw [hmembers, settle_yields, membersTail_yields h]
  rfl

end Members

/-! ### Values -/

/-- Blanks in front of a value make no difference. -/
theorem scalarOr_afterBlanks (container : Char → Reader Json) (c : Cursor) :
    scalarOr container (afterBlanks c) = scalarOr container c := by
  rw [scalarOr, skipBlanks_bind, skipBlanks_bind, afterBlanks_afterBlanks]

/-- The next value is a container, whose bracket this is. -/
def Opens (c : Cursor) (bracket : Char) : Prop :=
  (bracket = '[' ∨ bracket = '{') ∧ (afterBlanks c).rest.head? = some bracket

/-- In front of a bracket the reader of containers takes over; otherwise it is not asked. -/
theorem scalarOr_cases (c : Cursor) :
    ((∀ bracket, ¬ Opens c bracket) ∧
      ∀ container container', scalarOr container c = scalarOr container' c) ∨
    ∃ bracket, Opens c bracket ∧
      ∀ container, scalarOr container c = container bracket (afterBlanks c) := by
  by_cases hbracket : ∃ bracket, Opens c bracket
  · obtain ⟨bracket, hopens, hhead⟩ := hbracket
    refine .inr ⟨bracket, ⟨hopens, hhead⟩, fun container => ?_⟩
    rw [scalarOr, skipBlanks_bind, hhead]
    rcases hopens with rfl | rfl <;> rfl
  · refine .inl ⟨fun bracket hopens => hbracket ⟨bracket, hopens⟩, fun container container' => ?_⟩
    unfold Opens at hbracket
    rw [scalarOr, scalarOr, skipBlanks_bind, skipBlanks_bind]
    refine congrFun ?_ (afterBlanks c)
    generalize (afterBlanks c).rest.head? = next at hbracket ⊢
    -- the bodies are the same but for the characters that are brackets
    split
    · rfl
    · rfl
    · rfl
    · rfl
    · rfl
    · rfl
    · next bracket _ _ _ _ _ =>
      have hscalar : ¬ (decide (bracket = '[') || decide (bracket = '{')) = true := by
        intro hopens
        refine hbracket ⟨bracket, ?_, rfl⟩
        simpa using hopens
      simp only [if_neg hscalar]

section Values

variable {depth : Nat} {c c' : Cursor} {bracket bracket' : Char} {v : Json}

theorem Opens.unique (h : Opens c bracket) (h' : Opens c bracket') : bracket = bracket' :=
  Option.some.inj (h.2.symm.trans h'.2)

/-- Values that are no containers are read alike by all readers: what a reader that refuses
containers reads, they all do. -/
theorem scalarOr_yields {refuse : Char → Reader Json}
    (hrefuse : ∀ bracket c v c', ¬ Yields (refuse bracket) c v c') :
    Yields (scalarOr refuse) c v c' ↔ ∀ container, Yields (scalarOr container) c v c' := by
  constructor
  · intro h container
    obtain ⟨-, hsame⟩ | ⟨bracket, -, hcontainer⟩ := scalarOr_cases c
    · exact (hsame _ _).trans h
    · exact absurd ((hcontainer _).symm.trans h) (hrefuse bracket _ _ _)
  · exact fun h => h _

/-- A container is not read by all readers. -/
theorem Opens.not_scalar (h : Opens c bracket) :
    ¬ ∀ container, Yields (scalarOr container) c v c' := by
  intro hscalar
  obtain ⟨hnone, -⟩ | ⟨_, -, hcontainer⟩ := scalarOr_cases c
  · exact hnone _ h
  · exact failNext_yields ((hcontainer fun _ => failNext .expectedValue).symm.trans (hscalar _))

/-- Members that are written one by one make up a table. -/
theorem foldlM_insert (list : List (String × Json)) (table : Table String Json) :
    list.foldlM (fun done e => (.ok (Entries.insert e.1 e.2 done) : Except Issue _))
        table.entries =
      .ok (list.foldl (fun table e => table.insert e.1 e.2) table).entries := by
  induction list generalizing table with
  | nil => rfl
  | cons e list ih => exact ih (table.insert e.1 e.2)

/-- The members of a value are written one by one. -/
theorem entries_yields {entries : List (String × Json)} :
    Yields (members [] fun done key => do
        colon
        return Entries.insert key (← value depth) done) c entries c' ↔
      ∃ list, Yields (objectMembers depth) c list c' ∧ (Table.ofList list).entries = entries := by
  have htreats : Treats depth (fun (done : List (String × Json)) key => do
        colon
        return Entries.insert key (← value depth) done)
      fun done e => (.ok (Entries.insert e.1 e.2 done) : Except Issue _) := by
    intro done key c r c'
    simp only [memberValue, bind_yields, pure_yields]
    constructor
    · rintro ⟨⟨⟩, c₁, hcolon, v, c₂, hvalue, rfl, rfl⟩
      exact ⟨v, ⟨(), c₁, hcolon, hvalue⟩, rfl⟩
    · rintro ⟨v, ⟨⟨⟩, c₁, hcolon, hvalue⟩, hr⟩
      exact ⟨(), c₁, hcolon, v, c', hvalue, Except.ok.inj hr, rfl⟩
  rw [members_yields htreats]
  refine exists_congr fun list => and_congr_right fun _ => ?_
  rw [show list.foldlM _ [] = _ from foldlM_insert list .empty, Except.ok.injEq]
  rfl

/-- **How values are read**: as scalars, as lists of values or as objects, whose members are
written one after the other. -/
theorem value_succ_yields :
    Yields (value (depth + 1)) c v c' ↔
      (∀ container, Yields (scalarOr container) c v c') ∨
      (Opens c '[' ∧ ∃ c₁ vs, Yields advance (afterBlanks c) () c₁ ∧
        Yields (items (value depth)) c₁ vs c' ∧ .array vs = v) ∨
      (Opens c '{' ∧ ∃ c₁ list, Yields advance (afterBlanks c) () c₁ ∧
        Yields (objectMembers depth) c₁ list c' ∧ Json.ofMembers list = v) := by
  rw [value]
  rcases scalarOr_cases c with ⟨hnone, hsame⟩ | ⟨bracket, hopens, hcontainer⟩
  · constructor
    · exact fun h => .inl fun container => (hsame _ container).symm.trans h
    · rintro (h | ⟨hopens, -⟩ | ⟨hopens, -⟩)
      · exact h _
      · exact absurd hopens (hnone _)
      · exact absurd hopens (hnone _)
  · have hfails : ¬ ∀ container, Yields (scalarOr container) c v c' := hopens.not_scalar
    have hread : ∀ container, Yields (scalarOr container) c v c' ↔
        Yields (container bracket) (afterBlanks c) v c' := fun container => by
      unfold Yields
      rw [hcontainer]
    rw [hread, bind_yields]
    -- in front of a bracket only the reader of its container is left
    rcases hopens.1 with rfl | rfl
    · constructor
      · rintro ⟨⟨⟩, c₁, hadvance, hitems⟩
        rw [if_pos rfl, map_yields] at hitems
        obtain ⟨vs, hitems, rfl⟩ := hitems
        exact .inr (.inl ⟨hopens, c₁, vs, hadvance, hitems, rfl⟩)
      · rintro (h | ⟨-, c₁, vs, hadvance, hitems, rfl⟩ | ⟨hobject, -⟩)
        · exact absurd h hfails
        · refine ⟨(), c₁, hadvance, ?_⟩
          rw [if_pos rfl, map_yields]
          exact ⟨vs, hitems, rfl⟩
        · exact absurd (hopens.unique hobject) (by decide)
    · have hbrace : ¬ ('{' : Char) = '[' := by decide
      constructor
      · rintro ⟨⟨⟩, c₁, hadvance, hmembers⟩
        rw [if_neg hbrace, map_yields] at hmembers
        obtain ⟨entries, hmembers, rfl⟩ := hmembers
        obtain ⟨list, hlist, rfl⟩ := entries_yields.mp hmembers
        exact .inr (.inr ⟨hopens, c₁, list, hadvance, hlist, rfl⟩)
      · rintro (h | ⟨hlist, -⟩ | ⟨-, c₁, list, hadvance, hlist, rfl⟩)
        · exact absurd h hfails
        · exact absurd (hopens.unique hlist) (by decide)
        · refine ⟨(), c₁, hadvance, ?_⟩
          rw [if_neg hbrace, map_yields]
          exact ⟨_, entries_yields.mpr ⟨list, hlist, rfl⟩, rfl⟩

end Values

/-! ### Lists -/

section Items

variable {α : Type} {item item' : Reader α} {steps : Nat} {done vs : List α} {c c' : Cursor}

/-- The loop over items ends, or there is an item and more of the loop. -/
theorem itemsTail_succ_yields :
    Yields (itemsTail item (steps + 1) done) c vs c' ↔
      (Yields (nextItem done.isEmpty) c false c' ∧ done.reverse = vs) ∨
      ∃ c₁ v c₂, Yields (nextItem done.isEmpty) c true c₁ ∧ Yields item c₁ v c₂ ∧
        Yields (itemsTail item steps (v :: done)) c₂ vs c' := by
  rw [itemsTail_succ, bind_yields]
  constructor
  · rintro ⟨more, c₁, hnext, hrest⟩
    cases more with
    | false =>
      obtain ⟨rfl, rfl⟩ := pure_yields.mp hrest
      exact .inl ⟨hnext, rfl⟩
    | true =>
      obtain ⟨v, c₂, hitem, htail⟩ := bind_yields.mp hrest
      exact .inr ⟨c₁, v, c₂, hnext, hitem, htail⟩
  · rintro (⟨hnext, rfl⟩ | ⟨c₁, v, c₂, hnext, hitem, htail⟩)
    · exact ⟨false, c', hnext, pure_yields.mpr ⟨rfl, rfl⟩⟩
    · exact ⟨true, c₁, hnext, bind_yields.mpr ⟨v, c₂, hitem, htail⟩⟩

/-- What has been read is among the items in the end. -/
theorem Yields.subset_of_itemsTail (h : Yields (itemsTail item steps done) c vs c') :
    done ⊆ vs := by
  induction steps generalizing done c with
  | zero => exact absurd h failHere_yields
  | succ steps ih =>
    rcases itemsTail_succ_yields.mp h with ⟨-, rfl⟩ | ⟨c₁, v, c₂, -, -, htail⟩
    · exact fun v hv => List.mem_reverse.mpr hv
    · exact fun v' hv => ih htail (List.mem_cons_of_mem _ hv)

/-- **Item by item.** A list is read alike by two readers of items if all of its items are. -/
theorem Yields.itemsTail_mono (h : Yields (itemsTail item steps done) c vs c')
    (hitem : ∀ c v c', v ∈ vs → Yields item c v c' → Yields item' c v c') :
    Yields (itemsTail item' steps done) c vs c' := by
  induction steps generalizing done c with
  | zero => exact absurd h failHere_yields
  | succ steps ih =>
    refine itemsTail_succ_yields.mpr ?_
    rcases itemsTail_succ_yields.mp h with hend | ⟨c₁, v, c₂, hnext, hv, htail⟩
    · exact .inl hend
    · -- the item that is read now is still among the items in the end
      have hmem : v ∈ vs := htail.subset_of_itemsTail List.mem_cons_self
      exact .inr ⟨c₁, v, c₂, hnext, hitem c₁ v c₂ hmem hv, ih htail⟩

theorem Yields.items_mono (h : Yields (items item) c vs c')
    (hitem : ∀ c v c', v ∈ vs → Yields item c v c' → Yields item' c v c') :
    Yields (items item') c vs c' :=
  itemsTail_mono h hitem

end Items

/-! ### Whole texts -/

/-- The members of the object that comes next, as they are written. -/
def objectReader (depth : Nat) : Reader (List (String × Json)) := do
  if (← skipBlanks) = some '{' then do
    advance
    objectMembers depth
  else failNext .expectedValue

theorem objectReader_yields {depth : Nat} {c c' : Cursor} {list : List (String × Json)} :
    Yields (objectReader depth) c list c' ↔
      Opens c '{' ∧ ∃ c₁, Yields advance (afterBlanks c) () c₁ ∧
        Yields (objectMembers depth) c₁ list c' := by
  rw [objectReader, skipBlanks_bind_yields]
  split
  · next hopens =>
    rw [bind_yields]
    constructor
    · rintro ⟨⟨⟩, c₁, hadvance, hlist⟩
      exact ⟨⟨.inr rfl, hopens⟩, c₁, hadvance, hlist⟩
    · rintro ⟨-, c₁, hadvance, hlist⟩
      exact ⟨(), c₁, hadvance, hlist⟩
  · next hopens => exact iff_of_false failNext_yields fun h => hopens h.1.2

theorem run_eq_ok {α : Type} {reader : Reader α} {text : String} {a : α} :
    reader.run text = .ok a ↔
      ∃ c c', Yields reader (.ofString text) a c ∧ Yields atEnd c () c' := by
  have hrun : reader.run text = .ok a ↔
      ∃ c', Yields (do let a ← reader; atEnd; return a) (.ofString text) a c' := by
    unfold run Yields
    split
    · next a' c' heq =>
      rw [heq]
      constructor
      · rintro h
        exact ⟨c', by rw [Except.ok.inj h]⟩
      · rintro ⟨c'', h⟩
        rw [(Prod.mk.inj (Except.ok.inj h)).1]
    · next fault heq =>
      rw [heq]
      exact iff_of_false (nomatch ·) fun ⟨_, h⟩ => nomatch h
  rw [hrun]
  constructor
  · rintro ⟨c', h⟩
    obtain ⟨a', c, hreader, hrest⟩ := bind_yields.mp h
    obtain ⟨⟨⟩, c'', hend, hpure⟩ := bind_yields.mp hrest
    obtain ⟨rfl, rfl⟩ := pure_yields.mp hpure
    exact ⟨c, c'', hreader, hend⟩
  · rintro ⟨c, c', hreader, hend⟩
    refine ⟨c', bind_yields.mpr ⟨a, c, hreader, bind_yields.mpr ⟨(), c', hend, ?_⟩⟩⟩
    exact pure_yields.mpr ⟨rfl, rfl⟩

end Reader

/-- The members of the object that `text` is the text of, as they are written: in order, and as
often as they are repeated. -/
def membersOf (text : String) : Except ReadError (List (String × Json)) :=
  (Reader.objectReader (Reader.maxDepth - 1)).run text

/-- **The value is made up of the members.** -/
theorem parse_of_membersOf {text : String} {list : List (String × Json)}
    (h : membersOf text = .ok list) : parse text = .ok (Json.ofMembers list) := by
  obtain ⟨c, c', hobject, hend⟩ := Reader.run_eq_ok.mp h
  obtain ⟨hopens, c₁, hadvance, hlist⟩ := Reader.objectReader_yields.mp hobject
  refine Reader.run_eq_ok.mpr ⟨c, c', ?_, hend⟩
  exact Reader.value_succ_yields.mpr (.inr (.inr ⟨hopens, c₁, list, hadvance, hlist, rfl⟩))

end TransformerEngine.Json
