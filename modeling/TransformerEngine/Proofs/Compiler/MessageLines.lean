import Mathlib.Data.List.Basic
import TransformerEngine.Compiler.Diagnostic

/-!
# Messages as lines

A message is shown as lines, one for each head, and only the blanks in front of a head say
which other one it explains. What is shown is the tree of the heads (`Message.tree`): the
categories and codes of its parts are not in it, and a plain text, a head without
explanations and one with an empty list of them are the same leaf.

Nothing of this tree is lost (`flatten_keeps_structure`), and it is found again in two steps:

* from lines to depths: a line breaks off at the line feed, which no head contains, and its
  depth is counted in the blanks in front of it, with which no head begins
  (`Message.outline_eq_readLine`);
* from depths to the tree: the heads below one stand right behind it, up to the first that is
  no deeper than it (`HeadTree.preorderAt_append_inj`).
-/

namespace TransformerEngine

/-! ### Trees of heads -/

/-- A head with the heads that explain it. -/
inductive HeadTree where
  | node (head : String) (below : List HeadTree)

namespace HeadTree

mutual

/-- The heads of a tree that stands `depth` levels down, with their depths: each before those
below it. -/
def preorderAt (depth : Nat) : HeadTree → List (Nat × String)
  | node head below => (depth, head) :: preorderAllAt (depth + 1) below

/-- The heads of trees side by side, in order. -/
def preorderAllAt (depth : Nat) : List HeadTree → List (Nat × String)
  | [] => []
  | tree :: rest => preorderAt depth tree ++ preorderAllAt depth rest

end

/-- What comes next is less deep than `depth`, if anything comes. -/
def ShallowerThan (depth : Nat) (rest : List (Nat × String)) : Prop :=
  ∀ e ∈ rest.head?, e.1 < depth

/-- Trees side by side go on with a head of their own depth, or with what comes behind them. -/
theorem shallowerThan_preorderAllAt {depth : Nat} {trees : List HeadTree}
    {rest : List (Nat × String)} (h : ShallowerThan depth rest) :
    ShallowerThan (depth + 1) (preorderAllAt depth trees ++ rest) := by
  cases trees with
  | nil => exact fun e he => Nat.lt_succ_of_lt (h e he)
  | cons tree trees =>
    obtain ⟨head, below⟩ := tree
    intro e he
    obtain rfl : (depth, head) = e := Option.some.inj he
    exact Nat.lt_succ_self depth

mutual

/-- **A tree ends where what follows is no deeper than its root.** -/
theorem preorderAt_append_inj {depth : Nat} {rest rest' : List (Nat × String)} :
    (a b : HeadTree) → ShallowerThan (depth + 1) rest → ShallowerThan (depth + 1) rest' →
      preorderAt depth a ++ rest = preorderAt depth b ++ rest' → a = b ∧ rest = rest'
  | node head below, node head' below', h, h', heq => by
    obtain ⟨hroot, hbelow⟩ := List.cons.inj heq
    obtain ⟨rfl, hrest⟩ := preorderAllAt_append_inj below below' h h' hbelow
    exact ⟨congrArg (node · below) (Prod.mk.inj hroot).2, hrest⟩

theorem preorderAllAt_append_inj {depth : Nat} {rest rest' : List (Nat × String)} :
    (as bs : List HeadTree) → ShallowerThan depth rest → ShallowerThan depth rest' →
      preorderAllAt depth as ++ rest = preorderAllAt depth bs ++ rest' → as = bs ∧ rest = rest'
  | [], [], _, _, heq => ⟨rfl, heq⟩
  | [], node head below :: bs, h, _, heq => by
    -- the next head would be as deep as the trees, but nothing that deep follows
    have hdeep : (depth, head) ∈ rest.head? := by
      rw [show rest = _ from heq]
      rfl
    exact absurd (h _ hdeep) (Nat.lt_irrefl depth)
  | node head below :: as, [], _, h', heq => by
    have hdeep : (depth, head) ∈ rest'.head? := by
      rw [show rest' = _ from heq.symm]
      rfl
    exact absurd (h' _ hdeep) (Nat.lt_irrefl depth)
  | a :: as, b :: bs, h, h', heq => by
    rw [preorderAllAt, preorderAllAt, List.append_assoc, List.append_assoc] at heq
    obtain ⟨rfl, hothers⟩ := preorderAt_append_inj a b (shallowerThan_preorderAllAt h)
      (shallowerThan_preorderAllAt h') heq
    obtain ⟨rfl, hrest⟩ := preorderAllAt_append_inj as bs h h' hothers
    exact ⟨rfl, hrest⟩

end

/-- **The depths tell the tree.** -/
theorem preorderAt_injective (depth : Nat) : Function.Injective (preorderAt depth) := by
  intro a b h
  have hnothing : ShallowerThan (depth + 1) [] := fun e he => nomatch he
  exact (preorderAt_append_inj a b hnothing hnothing (congrArg (· ++ []) h)).1

end HeadTree

namespace Message

/-! ### From messages to trees and depths -/

mutual

/-- The heads of a message as a tree. -/
def tree : Message → HeadTree
  | .text words => .node words []
  | .chain head _ _ none => .node head []
  | .chain head _ _ (some next) => .node head (treeAll next)

/-- The trees of messages side by side. -/
def treeAll : List Message → List HeadTree
  | [] => []
  | message :: rest => tree message :: treeAll rest

end

mutual

/-- The outline of a message is that of its tree. -/
theorem outlineAt_eq_preorderAt (depth : Nat) :
    (message : Message) → message.outlineAt depth = HeadTree.preorderAt depth message.tree
  | .text _ => rfl
  | .chain _ _ _ none => rfl
  | .chain head _ _ (some next) =>
    congrArg ((depth, head) :: ·) (outlineAllAt_eq_preorderAllAt (depth + 1) next)

theorem outlineAllAt_eq_preorderAllAt (depth : Nat) :
    (messages : List Message) →
      outlineAllAt depth messages = HeadTree.preorderAllAt depth (treeAll messages)
  | [] => rfl
  | message :: rest =>
    congrArg₂ (· ++ ·) (outlineAt_eq_preorderAt depth message)
      (outlineAllAt_eq_preorderAllAt depth rest)

end

/-- The outlines of two messages are the same if their trees are. -/
theorem outline_eq_iff {a b : Message} : a.outline = b.outline ↔ a.tree = b.tree := by
  rw [outline, outline, outlineAt_eq_preorderAt, outlineAt_eq_preorderAt]
  exact (HeadTree.preorderAt_injective 0).eq_iff

/-! ### From outlines to lines -/

/-- A head as a line of its own, two blanks further in for each level down. -/
def indented (entry : Nat × String) : String :=
  String.ofList (List.replicate (2 * entry.1) ' ') ++ entry.2

mutual

/-- A message that is not the topmost one adds a line for each head in its outline. -/
theorem toList_flattenAt_succ (depth : Nat) : (message : Message) →
    (message.flattenAt (depth + 1)).toList =
      (message.outlineAt (depth + 1)).flatMap fun e => '\n' :: (indented e).toList
  | .text words => by simp [flattenAt, outlineAt, lineStart, indented]
  | .chain head _ _ none => by simp [flattenAt, outlineAt, lineStart, indented]
  | .chain head _ _ (some next) => by
    simp [flattenAt, outlineAt, lineStart, indented, toList_flattenAllAt_succ (depth + 1) next]

theorem toList_flattenAllAt_succ (depth : Nat) : (messages : List Message) →
    (flattenAllAt (depth + 1) messages).toList =
      (outlineAllAt (depth + 1) messages).flatMap fun e => '\n' :: (indented e).toList
  | [] => rfl
  | message :: rest => by
    rw [flattenAllAt, outlineAllAt, String.toList_append, List.flatMap_append,
      toList_flattenAt_succ depth message, toList_flattenAllAt_succ depth rest]

end

/-- Lines are joined by starting each but the first one anew. -/
theorem intercalate_newline (first : List Char) (others : List (List Char)) :
    ['\n'].intercalate (first :: others) = first ++ others.flatMap ('\n' :: ·) := by
  induction others generalizing first with
  | nil => simp
  | cons line rest ih => rw [List.intercalate_cons_cons, ih]; simp

/-- **A flattened message is its outline, line by line.** -/
theorem flatten_eq_lines (message : Message) :
    message.flatten = "\n".intercalate (message.outline.map indented) := by
  -- the topmost head is the first line, and all others start one
  have hfirst : ∀ (head : String) (others : List (Nat × String)),
      ("\n".intercalate (((0, head) :: others).map indented)).toList =
        head.toList ++ others.flatMap fun e => '\n' :: (indented e).toList := by
    intro head others
    rw [String.toList_intercalate, List.map_cons, List.map_cons]
    refine (intercalate_newline _ _).trans ?_
    simp [indented, List.flatMap_map]
  rw [← String.toList_inj]
  rcases message with words | ⟨head, category, code, next | next⟩
  · exact ((hfirst words []).trans (List.append_nil _)).symm
  · exact ((hfirst head []).trans (List.append_nil _)).symm
  · refine Eq.trans ?_ (hfirst head (outlineAllAt 1 next)).symm
    rw [← toList_flattenAllAt_succ 0 next, ← String.toList_append]
    rfl

/-! ### From lines to outlines -/

/-- A head that can be told from the line it stands on: it contains no line feed and does not
begin with a blank. -/
def IsPlainHead (head : String) : Prop := '\n' ∉ head.toList ∧ ' ' ∉ head.toList.head?

/-- All heads of the message can be told from their lines. -/
def HasPlainHeads (message : Message) : Prop := ∀ e ∈ message.outline, IsPlainHead e.2

instance (head : String) : Decidable (IsPlainHead head) :=
  inferInstanceAs (Decidable (_ ∧ _))

instance (message : Message) : Decidable message.HasPlainHeads :=
  inferInstanceAs (Decidable (∀ e ∈ message.outline, IsPlainHead e.2))

/-- The head on a line, and its depth by the blanks in front of it. -/
def readLine (line : List Char) : Nat × String :=
  ((line.takeWhile (· = ' ')).length / 2, String.ofList (line.dropWhile (· = ' ')))

theorem readLine_indented {depth : Nat} {head : String} (h : IsPlainHead head) :
    readLine (indented (depth, head)).toList = (depth, head) := by
  have hblanks : ∀ c ∈ List.replicate (2 * depth) ' ', decide (c = ' ') = true :=
    fun c hc => decide_eq_true (List.eq_of_mem_replicate hc)
  -- the head itself does not begin with a blank
  have hhead : head.toList.takeWhile (· = ' ') = [] ∧
      head.toList.dropWhile (· = ' ') = head.toList := by
    cases hchars : head.toList with
    | nil => exact ⟨rfl, rfl⟩
    | cons c rest =>
      have hc : ¬decide (c = ' ') = true := by
        intro heq
        exact h.2 (by rw [hchars, of_decide_eq_true heq]; rfl)
      exact ⟨List.takeWhile_cons_of_neg hc, List.dropWhile_cons_of_neg hc⟩
  rw [readLine, indented, String.toList_append, String.toList_ofList,
    List.takeWhile_append_of_pos hblanks, List.dropWhile_append_of_pos hblanks, hhead.1, hhead.2,
    List.append_nil, List.length_replicate, Nat.mul_div_cancel_left depth Nat.two_pos,
    String.ofList_toList]

theorem newline_not_mem_indented {entry : Nat × String} (h : IsPlainHead entry.2) :
    '\n' ∉ (indented entry).toList := by
  rw [indented, String.toList_append, String.toList_ofList, List.mem_append]
  rintro (hblanks | hhead)
  · exact absurd (List.eq_of_mem_replicate hblanks) (by decide)
  · exact h.1 hhead

/-- **The lines tell the depths.** -/
theorem outline_eq_readLine {message : Message} (h : message.HasPlainHeads) :
    message.outline = (message.flatten.toList.splitOn '\n').map readLine := by
  let lines := (message.outline.map indented).map String.toList
  have hlines : ∀ line ∈ lines, '\n' ∉ line := by
    simp only [lines, List.forall_mem_map]
    exact fun e he => newline_not_mem_indented (h e he)
  have hsome : lines ≠ [] := by
    rcases message with words | ⟨head, category, code, next | next⟩ <;> exact List.cons_ne_nil _ _
  have hsplit : message.flatten.toList.splitOn '\n' = lines := by
    rw [flatten_eq_lines, String.toList_intercalate]
    exact List.splitOn_intercalate '\n' hlines hsome
  rw [hsplit, List.map_map, List.map_map]
  -- each entry is read back from its line
  calc message.outline
      = message.outline.map id := (List.map_id _).symm
    _ = message.outline.map (readLine ∘ String.toList ∘ indented) :=
        List.map_congr_left fun e he => (readLine_indented (h e he)).symm

/-- **Flattening loses no structure.** Any message, however deep and wide, is flattened to the
lines that its heads make in order, each before those that explain it and two blanks further
in for each level down. And if no head of two messages contains a line feed or begins with a
blank, the messages are flattened to the same text exactly if their heads form the same tree,
in which a plain text, a head without explanations and a head with none of them listed are
the same leaf. -/
theorem flatten_keeps_structure {a b : Message} (ha : a.HasPlainHeads) (hb : b.HasPlainHeads) :
    (∀ message : Message,
      message.flatten = "\n".intercalate (message.outline.map indented)) ∧
    (a.flatten = b.flatten ↔ a.tree = b.tree) := by
  refine ⟨flatten_eq_lines, ?_⟩
  rw [← outline_eq_iff]
  constructor
  · intro h
    rw [outline_eq_readLine ha, outline_eq_readLine hb, h]
  · intro h
    rw [flatten_eq_lines, flatten_eq_lines, h]

/-! Two messages with the same heads in the same order. -/

namespace Sample

/-- One explanation, which is explained in turn; the last head is empty. -/
def deep : Message :=
  .chain "no match" .error 1 (some [.chain "bad type" .error 2 (some [.text ""])])

/-- Two explanations side by side. -/
def wide : Message :=
  .chain "no match" .error 1 (some [.chain "bad type" .error 2 none, .text ""])

end Sample

/-- Depth and breadth can be told apart, even where a head is empty; the code of a part and the
way in which a leaf is written cannot. -/
theorem flatten_keeps_structure_sample :
    Sample.deep.HasPlainHeads ∧ Sample.wide.HasPlainHeads ∧
    Sample.deep.flatten ≠ Sample.wide.flatten ∧
    Sample.wide.flatten =
      (chain "no match" .warning 7
        (some [.text "bad type", .chain "" .error 2 (some [])])).flatten := by
  have hdeep : Sample.deep.HasPlainHeads := by decide
  have hwide : Sample.wide.HasPlainHeads := by decide
  refine ⟨hdeep, hwide, fun h => ?_, ?_⟩
  · -- below the topmost head there is one tree here and there are two there
    have htree := (flatten_keeps_structure hdeep hwide).2.mp h
    simp [Sample.deep, Sample.wide, tree, treeAll] at htree
  · exact (flatten_keeps_structure hwide (by decide)).2.mpr rfl

end Message

end TransformerEngine
