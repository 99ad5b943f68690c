import TransformerEngine.Json.Reader

/-!
# What readers come to

A reader that yields a value yields it step by step: each step consumes some of the text and
hands on what is left. `Yields` says what a reader comes to, and a lemma for each way in which
readers are put together takes it apart. Faults are not spoken of; `settle`, which only places
them, drops out (`settle_yields`).

The loops over members and items do the same thing between two of them, whatever is done with
each. What they do is a reader of its own (`nextKey`, `nextItem`), and one turn of a loop is
this reader with the member or the item behind it (`membersTail_succ`, `itemsTail_succ`).
-/

namespace TransformerEngine.Json.Reader

variable {α β σ : Type}

/-- Reading comes to a value, with `c'` left to be read. -/
def Yields (reader : Reader α) (c : Cursor) (a : α) (c' : Cursor) : Prop :=
  reader c = .ok (a, c')

section Combining

variable {c c' : Cursor} {a a' : α} {b : β} {m : Reader α}

theorem Yields.unique {c'' : Cursor} (h : Yields m c a c') (h' : Yields m c a' c'') :
    a = a' ∧ c' = c'' :=
  Prod.mk.inj (Except.ok.inj (h.symm.trans h'))

theorem pure_yields : Yields (pure a) c a' c' ↔ a = a' ∧ c = c' := by
  constructor
  · intro h
    exact Prod.mk.inj (Except.ok.inj h)
  · rintro ⟨rfl, rfl⟩
    rfl

theorem bind_yields {f : α → Reader β} :
    Yields (m >>= f) c b c' ↔ ∃ a c₁, Yields m c a c₁ ∧ Yields (f a) c₁ b c' := by
  have hbind : (m >>= f) c = (m c >>= fun p => f p.1 p.2) := rfl
  unfold Yields
  rw [hbind]
  cases m c with
  | error fault => exact iff_of_false (nomatch ·) fun ⟨_, _, h, _⟩ => nomatch h
  | ok p =>
    constructor
    · exact fun h => ⟨p.1, p.2, rfl, h⟩
    · rintro ⟨a, c₁, hp, h⟩
      obtain rfl := Except.ok.inj hp
      exact h

theorem map_yields {f : α → β} :
    Yields (f <$> m) c b c' ↔ ∃ a, Yields m c a c' ∧ f a = b := by
  rw [map_eq_pure_bind, bind_yields]
  constructor
  · rintro ⟨a, c₁, hm, hpure⟩
    obtain ⟨rfl, rfl⟩ := pure_yields.mp hpure
    exact ⟨a, hm, rfl⟩
  · rintro ⟨a, hm, rfl⟩
    exact ⟨a, c', hm, pure_yields.mpr ⟨rfl, rfl⟩⟩

theorem failHere_yields {issue : Issue} : ¬ Yields (failHere issue : Reader α) c a c' :=
  nofun

theorem failPending_yields {issue : Issue} : ¬ Yields (failPending issue : Reader α) c a c' :=
  nofun

theorem failNext_yields {issue : Issue} : ¬ Yields (failNext issue : Reader α) c a c' := by
  unfold Yields failNext
  split <;> exact nofun

theorem failNext_bind {issue : Issue} (f : α → Reader β) :
    (failNext issue >>= f) = failNext issue := by
  funext c
  change (failNext issue c >>= fun p => f p.1 p.2) = failNext issue c
  unfold failNext
  split <;> rfl

/-- Placing faults makes no difference to what is read. -/
theorem settle_yields : Yields (settle m) c a c' ↔ Yields m c a c' := by
  unfold Yields settle
  split
  · next issue cursor heq =>
    rw [heq]
    refine iff_of_false ?_ (nomatch ·)
    dsimp only
    split <;> exact nofun
  · rfl

end Combining

/-! ### Blanks -/

/-- What is left behind blanks. -/
def afterBlanks (c : Cursor) : Cursor :=
  ⟨(c.rest.takeWhile isGap).foldl Position.after c.position, c.rest.dropWhile isGap⟩

theorem skip_eq (before after : List Char) (position : Position) :
    skip before.length ⟨position, before ++ after⟩ =
      .ok ((), ⟨before.foldl Position.after position, after⟩) := by
  induction before generalizing position with
  | nil => rfl
  | cons next before ih => exact ih (position.after next)

/-- Blanks are passed over, and the character behind them is seen. -/
theorem skipBlanks_eq (c : Cursor) :
    skipBlanks c = .ok ((afterBlanks c).rest.head?, afterBlanks c) := by
  have hskip := skip_eq (c.rest.takeWhile isGap) (c.rest.dropWhile isGap) c.position
  rw [List.takeWhile_append_dropWhile] at hskip
  change (skip (c.rest.takeWhile isGap).length c >>= fun p => peek p.2) = _
  rw [hskip]
  rfl

/-- What comes behind blanks is read there, and knows the next character. -/
theorem skipBlanks_bind (c : Cursor) (f : Option Char → Reader α) :
    (skipBlanks >>= f) c = f (afterBlanks c).rest.head? (afterBlanks c) := by
  change (skipBlanks c >>= fun p => f p.1 p.2) = _
  rw [skipBlanks_eq]
  rfl

theorem skipBlanks_bind_yields {c c' : Cursor} {f : Option Char → Reader α} {a : α} :
    Yields (skipBlanks >>= f) c a c' ↔
      Yields (f (afterBlanks c).rest.head?) (afterBlanks c) a c' := by
  unfold Yields
  rw [skipBlanks_bind]

/-- Behind blanks there are none. -/
theorem afterBlanks_afterBlanks (c : Cursor) : afterBlanks (afterBlanks c) = afterBlanks c := by
  have hhead := List.head?_dropWhile_not isGap c.rest
  unfold afterBlanks
  generalize c.rest.dropWhile isGap = rest at hhead ⊢
  cases rest with
  | nil => rfl
  | cons next rest =>
    have hnext : ¬ isGap next = true := Bool.not_eq_true _ ▸ hhead
    simp only [List.takeWhile_cons_of_neg hnext, List.dropWhile_cons_of_neg hnext, List.foldl_nil]

/-! ### One turn of a loop -/

/-- What stands between members: up to the next key, or to the end of the object. -/
def nextKey (first : Bool) : Reader (Option String) := do
  match ← skipBlanks with
  | none => failNext (.unexpectedEnd .object)
  | some '}' => do
    advance
    return none
  | some c =>
    if first then
      if c = '"' then do
        advance
        some <$> stringBody
      else failNext .keyNotString
    else if c = ',' then do
      advance
      match ← skipBlanks with
      | some '"' => do
        advance
        some <$> stringBody
      | some '}' => failNext .trailingComma
      | some _ => failNext .keyNotString
      | none => failNext (.unexpectedEnd .value)
    else failNext .expectedObjectEnd

theorem membersTail_succ (member : σ → String → Reader σ) (steps : Nat) (first : Bool) (done : σ) :
    membersTail member (steps + 1) first done = (do
      match ← nextKey first with
      | none => return done
      | some key => membersTail member steps false (← member done key)) := by
  rw [membersTail, nextKey, bind_assoc]
  congr 1
  funext next
  rcases next with _ | c
  · exact (failNext_bind _).symm
  by_cases hend : c = '}'
  · subst hend
    simp only [bind_assoc, pure_bind]
  simp only []
  cases first with
  | true =>
    rw [if_pos rfl, if_pos rfl]
    split
    · simp only [bind_assoc, map_eq_pure_bind, pure_bind]
    · rw [failNext_bind]
  | false =>
    rw [if_neg Bool.false_ne_true, if_neg Bool.false_ne_true]
    split
    · -- behind a comma there may be blanks again
      simp only [bind_assoc]
      congr 1
      funext _
      congr 1
      funext next
      rcases next with _ | c
      · exact (failNext_bind _).symm
      by_cases hkey : c = '"'
      · subst hkey
        simp only [bind_assoc, map_eq_pure_bind, pure_bind]
      by_cases hclose : c = '}'
      · subst hclose
        exact (failNext_bind _).symm
      · simp only [failNext_bind]
    · rw [failNext_bind]

/-- What stands between items: whether there is another one. -/
def nextItem (first : Bool) : Reader Bool := do
  match ← skipBlanks with
  | none => failNext (.unexpectedEnd .list)
  | some ']' => do
    advance
    return false
  | some c =>
    if first then return true
    else if c = ',' then do
      advance
      match ← skipBlanks with
      | some ']' => failNext .trailingComma
      | some _ => return true
      | none => failNext (.unexpectedEnd .value)
    else failNext .expectedListEnd

theorem itemsTail_succ (item : Reader α) (steps : Nat) (done : List α) :
    itemsTail item (steps + 1) done = (do
      if ← nextItem done.isEmpty then itemsTail item steps ((← item) :: done)
      else return done.reverse) := by
  rw [itemsTail, nextItem, bind_assoc]
  congr 1
  funext next
  rcases next with _ | c
  · exact (failNext_bind _).symm
  by_cases hend : c = ']'
  · subst hend
    simp only [bind_assoc, pure_bind]
    rfl
  simp only []
  split
  · next hempty =>
    rw [List.isEmpty_iff.mp hempty]
    rfl
  · split
    · simp only [bind_assoc]
      congr 1
      funext _
      congr 1
      funext next
      rcases next with _ | c
      · exact (failNext_bind _).symm
      by_cases hend : c = ']'
      · subst hend
        exact (failNext_bind _).symm
      · simp only [pure_bind, if_true]
    · rw [failNext_bind]

end TransformerEngine.Json.Reader
