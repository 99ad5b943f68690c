import TransformerEngine.Json.Reader

/-!
# Passing over JSON values

Where a value is not needed it is passed over without being built. Passing over is more
lenient than reading: containers may nest without limit, numbers may be of any size, and
surrogate escapes need not pair. The containers that are open are kept in a list, the
innermost first.
-/

namespace TransformerEngine.Json.Reader

/-- A container that is being passed over. -/
inductive Frame where
  | list
  | object
deriving DecidableEq

/-- Pass over an exponent, from its letter on. -/
def skipExponent : Reader Unit := do
  advance
  let sign ← peek
  if sign = some '+' || sign = some '-' then advance
  let digits ← ahead isDigit
  if digits = [] then failNext .invalidNumber else skip digits.length

/-- Pass over what may follow the integer part of a number. -/
def skipNumberTail : Reader Unit := do
  match ← peek with
  | some '.' => do
    advance
    let digits ← ahead isDigit
    skip digits.length
    if digits = [] then failNext .invalidNumber
    else
      match ← peek with
      | some 'e' | some 'E' => skipExponent
      | _ => pure ()
  | some 'e' | some 'E' => skipExponent
  | _ => pure ()

/-- Pass over a number, from its first digit on. -/
def skipNumber : Reader Unit := do
  let digits ← ahead isDigit
  match digits with
  | [] => failNext .invalidNumber
  | ['0'] => do advance; skipNumberTail
  | '0' :: _ => do advance; failNext .invalidNumber
  | _ => do skip digits.length; skipNumberTail

/-- Pass over the rest of a string, up to and with its closing quote. Every step consumes
a character. -/
def skipStringTail : (steps : Nat) → Reader Unit
  | 0 => failHere (.unexpectedEnd .string)
  | steps + 1 => do
    match ← peek with
    | none => failHere (.unexpectedEnd .string)
    | some '"' => advance
    | some '\\' => do
      advance
      match ← peek with
      | none => failHere (.unexpectedEnd .string)
      | some 'u' => do
        advance
        let _ ← hexEscape
        skipStringTail steps
      | some c =>
        if c ∈ ['"', '\\', '/', 'b', 'f', 'n', 'r', 't'] then do
          advance
          skipStringTail steps
        else failNext .invalidEscape
    | some c =>
      if c.toNat < 0x20 then failHere .controlCharacter
      else do
        advance
        skipStringTail steps

/-- Pass over a string, from behind its opening quote. -/
def skipString : Reader Unit := do skipStringTail ((← remaining) + 1)

/-- Pass over a key and its colon. -/
def skipKey : Reader Unit := do
  match ← skipBlanks with
  | some '"' => do
    advance
    skipString
    colon
  | some _ => failNext .keyNotString
  | none => failNext (.unexpectedEnd .object)

/-- What comes next while values are passed over. -/
inductive Expecting where
  /-- A value. -/
  | value
  /-- The first part of the innermost container, or its end. -/
  | first
  /-- A comma, or the end of the innermost container. -/
  | next

/-- Pass over values until no container is open. Each step consumes a character or is
followed by one that does. -/
def skipOpen : (steps : Nat) → Expecting → List Frame → Reader Unit
  | 0, _, _ => failHere (.unexpectedEnd .value)
  | steps + 1, .value, frames => do
    match ← skipBlanks with
    | none => failNext (.unexpectedEnd .value)
    | some '[' => do advance; skipOpen steps .first (.list :: frames)
    | some '{' => do advance; skipOpen steps .first (.object :: frames)
    | some 'n' => do advance; literal () ['u', 'l', 'l']; skipOpen steps .next frames
    | some 't' => do advance; literal () ['r', 'u', 'e']; skipOpen steps .next frames
    | some 'f' => do advance; literal () ['a', 'l', 's', 'e']; skipOpen steps .next frames
    | some '"' => do advance; skipString; skipOpen steps .next frames
    | some '-' => do advance; skipNumber; skipOpen steps .next frames
    | some c =>
      if isDigit c then do skipNumber; skipOpen steps .next frames
      else failNext .expectedValue
  | _, .first, [] | _, .next, [] => pure ()
  | steps + 1, .first, .list :: frames => do
    match ← skipBlanks with
    | none => failNext (.unexpectedEnd .list)
    | some ']' => do advance; skipOpen steps .next frames
    | some _ => skipOpen steps .value (.list :: frames)
  | steps + 1, .first, .object :: frames => do
    match ← skipBlanks with
    | none => failNext (.unexpectedEnd .object)
    | some '}' => do advance; skipOpen steps .next frames
    | some _ => do skipKey; skipOpen steps .value (.object :: frames)
  | steps + 1, .next, .list :: frames => do
    match ← skipBlanks with
    | none => failNext (.unexpectedEnd .list)
    | some ']' => do advance; skipOpen steps .next frames
    | some ',' => do advance; skipOpen steps .value (.list :: frames)
    | some _ => failNext .expectedListEnd
  | steps + 1, .next, .object :: frames => do
    match ← skipBlanks with
    | none => failNext (.unexpectedEnd .object)
    | some '}' => do advance; skipOpen steps .next frames
    | some ',' => do advance; skipKey; skipOpen steps .value (.object :: frames)
    | some _ => failNext .expectedObjectEnd

/-- Pass over a value. -/
def skipValue : Reader Unit := do skipOpen (2 * (← remaining) + 2) .value []

end TransformerEngine.Json.Reader
