/-!
# Diagnostics

A `Diagnostic` is a message about the program being compiled, with a category, a code and
perhaps a place. Its message is a plain text or a tree of messages, each explaining the
one above it.

`Message.flatten` is the form that is shown: the heads of the tree line by line, each two
blanks further in than the message it belongs to. `Message.outline` lists the same heads
with their depths.
-/

namespace TransformerEngine

/-- How serious a diagnostic is. -/
inductive Category where
  | warning
  | error
  | suggestion
  | message
deriving DecidableEq, Repr

/-- The word for a category. -/
def Category.name : Category → String
  | .warning => "warning"
  | .error => "error"
  | .suggestion => "suggestion"
  | .message => "message"

/-- A message: a plain text, or a head with the messages that explain it. -/
inductive Message where
  | text (words : String)
  | chain (head : String) (category : Category) (code : Int) (next : Option (List Message))
deriving Inhabited

namespace Message

/-- The topmost text. -/
def head : Message → String
  | .text words => words
  | .chain head _ _ _ => head

/-- The start of a line `depth` levels down; the topmost message starts no line. -/
def lineStart : (depth : Nat) → String
  | 0 => ""
  | depth + 1 => "\n" ++ String.ofList (List.replicate (2 * (depth + 1)) ' ')

mutual

/-- The lines of a message that stands `depth` levels down. -/
def flattenAt (depth : Nat) : Message → String
  | .text words => lineStart depth ++ words
  | .chain head _ _ none => lineStart depth ++ head
  | .chain head _ _ (some next) => lineStart depth ++ head ++ flattenAllAt (depth + 1) next

/-- The lines of messages that stand side by side, `depth` levels down. -/
def flattenAllAt (depth : Nat) : List Message → String
  | [] => ""
  | message :: rest => flattenAt depth message ++ flattenAllAt depth rest

end

/-- The message as indented lines. -/
def flatten (message : Message) : String := message.flattenAt 0

mutual

/-- The heads of a message `depth` levels down and of those below it, with their depths:
each before the messages that explain it. -/
def outlineAt (depth : Nat) : Message → List (Nat × String)
  | .text words => [(depth, words)]
  | .chain head _ _ none => [(depth, head)]
  | .chain head _ _ (some next) => (depth, head) :: outlineAllAt (depth + 1) next

/-- The heads of messages side by side, in order. -/
def outlineAllAt (depth : Nat) : List Message → List (Nat × String)
  | [] => []
  | message :: rest => outlineAt depth message ++ outlineAllAt depth rest

end

/-- The heads of the message tree with their depths, each before those below it. -/
def outline (message : Message) : List (Nat × String) := message.outlineAt 0

/-! ### Equality -/

mutual

/-- Equality of two messages is decidable. -/
def decEq : (a b : Message) → Decidable (a = b)
  | .text a, .text b => decidable_of_iff (a = b) (by simp)
  | .chain h c n none, .chain h' c' n' none =>
    decidable_of_iff (h = h' ∧ c = c' ∧ n = n') (by simp)
  | .chain h c n (some xs), .chain h' c' n' (some ys) =>
    have := decEqAll xs ys
    decidable_of_iff (h = h' ∧ c = c' ∧ n = n' ∧ xs = ys) (by simp)
  | .chain _ _ _ none, .chain _ _ _ (some _) | .chain _ _ _ (some _), .chain _ _ _ none
  | .text _, .chain _ _ _ _ | .chain _ _ _ _, .text _ => isFalse (by simp)

/-- Equality of two lists of messages is decidable. -/
def decEqAll : (xs ys : List Message) → Decidable (xs = ys)
  | [], [] => isTrue rfl
  | x :: xs, y :: ys =>
    have := decEq x y
    have := decEqAll xs ys
    decidable_of_iff (x = y ∧ xs = ys) (by simp)
  | [], _ :: _ | _ :: _, [] => isFalse (by simp)

end

instance : DecidableEq Message := decEq

end Message

/-- A message about the program being compiled. -/
structure Diagnostic where
  /-- How serious it is. -/
  category : Category
  /-- Its number. -/
  code : Int
  /-- The file it is about. -/
  file : Option String
  /-- Where in the file it begins. -/
  start : Option Nat
  /-- How much of the file it covers. -/
  length : Option Nat
  /-- What it says. -/
  message : Message
deriving DecidableEq

namespace Diagnostic

/-- An error without a place. -/
def error (code : Int) (message : String) : Diagnostic :=
  ⟨.error, code, none, none, none, .text message⟩

/-- The place of a diagnostic as its text begins with it; a start without a file is not
shown. -/
def place (d : Diagnostic) : String :=
  match d.file, d.start with
  | some file, some start => s!"{file}:{start} - "
  | some file, none => s!"{file} - "
  | none, _ => ""

/-- The diagnostic as it is shown. -/
def display (d : Diagnostic) : String :=
  s!"{d.place}{d.category.name} TS{d.code}: {d.message.flatten}"

end Diagnostic

end TransformerEngine
