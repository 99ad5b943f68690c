import TransformerEngine.Json.Issue

/-!
# Reading JSON text

A `Reader` consumes characters from a `Cursor` and either yields a value or a `Fault`.
An error is placed at the bytes consumed so far (`failHere`) or just behind the next,
offending byte (`failNext`). A fault found only after a value was read whole has no place
of its own: it stays `pending` until the object around it is left, and is placed there
(`settle`).

Containers may nest `maxDepth` deep. Reading recurses on the depth that is left; the
loops over items, members and characters carry a step count that the length of the
remaining text bounds.
-/

namespace TransformerEngine.Json

open Number (Binary64 Decimal)

/-- A text that is being read: where reading has come to, and what is left. -/
structure Cursor where
  /-- The place of the next character. -/
  position : Position
  /-- The characters that are left. -/
  rest : List Char

/-- The start of `text`. -/
def Cursor.ofString (text : String) : Cursor := ⟨.start, text.toList⟩

/-- Why reading stopped: an issue with its place, or an issue that the object around it
will place. -/
inductive Fault where
  | placed (error : ReadError)
  | pending (issue : Issue) (cursor : Cursor)

/-- The error of a fault; a pending one is placed where reading stopped. -/
def Fault.error : Fault → ReadError
  | .placed error => error
  | .pending issue cursor => ⟨issue, cursor.position⟩

/-- A step of reading that yields an `α`. -/
abbrev Reader (α : Type) := StateT Cursor (Except Fault) α

namespace Reader

/-! ### Characters and errors -/

/-- Stop with `issue`, placed at the bytes consumed so far. -/
def failHere {α : Type} (issue : Issue) : Reader α := fun c =>
  .error (.placed ⟨issue, c.position⟩)

/-- Stop with `issue`, placed behind the first byte of the next character. -/
def failNext {α : Type} (issue : Issue) : Reader α := fun c =>
  match c.rest with
  | next :: _ => .error (.placed ⟨issue, c.position.within next 1⟩)
  | [] => .error (.placed ⟨issue, c.position⟩)

/-- Stop with `issue`, to be placed by the object around it. -/
def failPending {α : Type} (issue : Issue) : Reader α := fun c => .error (.pending issue c)

/-- The next character, left in place. -/
def peek : Reader (Option Char) := fun c => .ok (c.rest.head?, c)

/-- Consume the next character. -/
def advance : Reader Unit := fun c =>
  match c.rest with
  | next :: rest => .ok ((), ⟨c.position.after next, rest⟩)
  | [] => .ok ((), c)

/-- Consume `n` characters. -/
def skip : (n : Nat) → Reader Unit
  | 0 => pure ()
  | n + 1 => do advance; skip n

/-- How many characters are left. -/
def remaining : Reader Nat := fun c => .ok (c.rest.length, c)

/-- The longest run of characters ahead that satisfy `p`, left in place. -/
def ahead (p : Char → Bool) : Reader (List Char) := fun c => .ok (c.rest.takeWhile p, c)

/-- Whether JSON allows `c` between its tokens. -/
def isGap (c : Char) : Bool := c = ' ' || c = '\n' || c = '\t' || c = '\r'

/-- Consume the blanks ahead; the character behind them, left in place. -/
def skipBlanks : Reader (Option Char) := do
  let blanks ← ahead isGap
  skip blanks.length
  peek

/-- Leaving the object around a pending fault: blanks are consumed, and the bracket that
ends the object if it comes next; there the fault is placed. -/
def settle {α : Type} (reader : Reader α) : Reader α := fun c =>
  match reader c with
  | .error (.pending issue cursor) =>
    let leave : Reader Unit := do
      if (← skipBlanks) = some '}' then advance
      failHere issue
    match leave cursor with
    | .error fault => .error fault
    | .ok _ => .error (.pending issue cursor)
  | result => result

/-- Consume the rest of a literal word. -/
def literal {α : Type} (value : α) : (word : List Char) → Reader α
  | [] => pure value
  | expected :: word => do
    match ← peek with
    | none => failHere (.unexpectedEnd .value)
    | some c => if c = expected then do advance; literal value word else failNext .expectedLiteral

/-! ### Numbers -/

/-- Whether `c` is a decimal digit. -/
def isDigit (c : Char) : Bool := '0' ≤ c && c ≤ '9'

/-- The value of a digit. -/
def digitValue (c : Char) : Nat := c.toNat - '0'.toNat

/-- The largest significand, which has 64 bits. -/
def maxSignificand : Nat := 0xFFFFFFFFFFFFFFFF

/-- The largest exponent, which has 31 bits. -/
def maxExponent : Nat := 0x7FFFFFFF

/-- Append digits to `n` while the result stays within `limit`; the digits from the first
that does not fit are handed back. -/
def accumulate (limit n : Nat) : List Char → Nat × List Char
  | [] => (n, [])
  | c :: cs =>
    let next := n * 10 + digitValue c
    if limit < next then (n, c :: cs) else accumulate limit next cs

/-- The decimal of `± significand · 10 ^ exponent`. -/
def scaled (negative : Bool) (significand : Nat) (exponent : Int) : Reader Json :=
  match Binary64.ofScientific significand exponent with
  | some x => pure (.decimal (Decimal.ofBinary64 negative x))
  | none => failHere .numberOutOfRange

/-- The exponent of a number, from its letter on. An exponent too large to count is zero
or out of range, as its sign says. -/
def exponentPart (negative : Bool) (significand : Nat) (scale : Int) : Reader Json := do
  advance
  let sign ← peek
  if sign = some '+' || sign = some '-' then advance
  match ← peek with
  | none => failHere (.unexpectedEnd .value)
  | some c =>
    if isDigit c then
      let digits ← ahead isDigit
      let (power, unread) := accumulate maxExponent 0 digits
      skip (digits.length - unread.length)
      if unread = [] then
        scaled negative significand (if sign = some '-' then scale - power else scale + power)
      else if significand = 0 || sign = some '-' then do
        skip unread.length
        scaled negative 0 0
      else do
        advance
        failHere .numberOutOfRange
    else failNext .invalidNumber

/-- The fraction of a number, from its point on. Digits that no longer fit into the
significand are passed over. -/
def fractionPart (negative : Bool) (significand : Nat) (scale : Int) : Reader Json := do
  advance
  let digits ← ahead isDigit
  skip digits.length
  if digits = [] then
    match ← peek with
    | some _ => failNext .invalidNumber
    | none => failHere (.unexpectedEnd .value)
  else
    let (longer, unread) := accumulate maxSignificand significand digits
    let scale' := scale - (digits.length - unread.length : Nat)
    match ← peek with
    | some 'e' | some 'E' => exponentPart negative longer scale'
    | _ => scaled negative longer scale'

/-- The largest magnitude of a negative integer, which 64 bits with a sign hold. -/
def maxNegative : Nat := 0x8000000000000000

/-- The value of a number without fraction and exponent: an integer where 64 bits hold it.
Minus zero is no integer. -/
def integer (negative : Bool) (significand : Nat) : Reader Json :=
  if !negative then pure (.int significand)
  else if 0 < significand && significand ≤ maxNegative then pure (.int (-(significand : Int)))
  else scaled true significand 0

/-- What may follow the integer part of a number. -/
def numberTail (negative : Bool) (significand : Nat) (dropped : Nat) : Reader Json := do
  match ← peek with
  | some '.' => fractionPart negative significand dropped
  | some 'e' | some 'E' => exponentPart negative significand dropped
  | _ => if dropped = 0 then integer negative significand else scaled negative significand dropped

/-- A number, from its first digit on. Digits that no longer fit into the significand
scale it by ten each. -/
def number (negative : Bool) : Reader Json := do
  match ← peek with
  | none => failHere (.unexpectedEnd .value)
  | some '0' => do
    advance
    match ← peek with
    | some c => if isDigit c then failNext .invalidNumber else numberTail negative 0 0
    | none => numberTail negative 0 0
  | some c =>
    if isDigit c then
      let digits ← ahead isDigit
      let (significand, unread) := accumulate maxSignificand 0 digits
      skip digits.length
      numberTail negative significand unread.length
    else failNext .invalidNumber

/-! ### Strings -/

/-- The value of a hexadecimal digit. -/
def hexValue? (c : Char) : Option Nat :=
  if '0' ≤ c && c ≤ '9' then some (c.toNat - '0'.toNat)
  else if 'a' ≤ c && c ≤ 'f' then some (c.toNat - 'a'.toNat + 10)
  else if 'A' ≤ c && c ≤ 'F' then some (c.toNat - 'A'.toNat + 10)
  else none

/-- The value of a run of hexadecimal digits. -/
def hexNumber? (cs : List Char) : Option Nat :=
  cs.foldl (fun n c => do return (← n) * 16 + (← hexValue? c)) (some 0)

/-- The four hexadecimal digits of an escape. Four bytes are taken at once, whatever they
are. -/
def hexEscape : Reader Nat := fun c =>
  if (String.ofList (c.rest.take 4)).utf8ByteSize < 4 then
    .error (.placed ⟨.unexpectedEnd .string, c.rest.foldl Position.after c.position⟩)
  else
    match hexNumber? (c.rest.take 4) with
    | some n => do
      let (_, c') ← skip 4 c
      .ok (n, c')
    | none => .error (.placed ⟨.invalidEscape, c.position.afterBytes 4 c.rest⟩)

/-- Half a surrogate pair, the half that comes first. -/
def isLeadingSurrogate (n : Nat) : Bool := 0xD800 ≤ n && n ≤ 0xDBFF

/-- Half a surrogate pair, the half that comes second. -/
def isTrailingSurrogate (n : Nat) : Bool := 0xDC00 ≤ n && n ≤ 0xDFFF

/-- The next character must be `expected`, which is consumed: the second half of a
surrogate pair is being looked for. -/
def pairExpects (expected : Char) : Reader Unit := do
  match ← peek with
  | none => failHere (.unexpectedEnd .string)
  | some c => if c = expected then advance else failNext .unfinishedPair

/-- The character of a numeric escape, from its digits on. A character beyond `U+FFFF` is
written as a surrogate pair. -/
def numericEscape : Reader Char := do
  let first ← hexEscape
  if isTrailingSurrogate first then failHere .loneSurrogate
  else if isLeadingSurrogate first then do
    pairExpects '\\'
    pairExpects 'u'
    let second ← hexEscape
    if isTrailingSurrogate second then
      return Char.ofNat ((first - 0xD800) * 0x400 + (second - 0xDC00) + 0x10000)
    else failHere .loneSurrogate
  else return Char.ofNat first

/-- The character of an escape, from the character behind the backslash on. -/
def escape : Reader Char := do
  match ← peek with
  | none => failHere (.unexpectedEnd .string)
  | some c =>
    let simple (value : Char) : Reader Char := do advance; return value
    match c with
    | '"' => simple '"'
    | '\\' => simple '\\'
    | '/' => simple '/'
    | 'b' => simple '\x08'
    | 'f' => simple '\x0c'
    | 'n' => simple '\n'
    | 'r' => simple '\r'
    | 't' => simple '\t'
    | 'u' => do advance; numericEscape
    | _ => failNext .invalidEscape

/-- The characters of a string behind `done`, which are kept in reverse, up to and with
its closing quote. Every step consumes a character. -/
def stringTail : (steps : Nat) → (done : List Char) → Reader String
  | 0, _ => failHere (.unexpectedEnd .string)
  | steps + 1, done => do
    match ← peek with
    | none => failHere (.unexpectedEnd .string)
    | some '"' => do
      advance
      return String.ofList done.reverse
    | some '\\' => do
      advance
      let c ← escape
      stringTail steps (c :: done)
    | some c =>
      if c.toNat < 0x20 then failNext .controlCharacter
      else do
        advance
        stringTail steps (c :: done)

/-- A string, from behind its opening quote. -/
def stringBody : Reader String := do stringTail ((← remaining) + 1) []

/-! ### Containers -/

/-- The items behind `done`, which are kept in reverse, up to and with the closing
bracket of a list. -/
def itemsTail {α : Type} (item : Reader α) :
    (steps : Nat) → (done : List α) → Reader (List α)
  | 0, _ => failHere (.unexpectedEnd .list)
  | steps + 1, done => do
    match ← skipBlanks with
    | none => failNext (.unexpectedEnd .list)
    | some ']' => do
      advance
      return done.reverse
    | some c =>
      if done.isEmpty then do
        let first ← item
        itemsTail item steps [first]
      else if c = ',' then do
        advance
        match ← skipBlanks with
        | some ']' => failNext .trailingComma
        | some _ => do
          let next ← item
          itemsTail item steps (next :: done)
        | none => failNext (.unexpectedEnd .value)
      else failNext .expectedListEnd

/-- The items of a list, from behind its opening bracket. -/
def items {α : Type} (item : Reader α) : Reader (List α) := do
  itemsTail item ((← remaining) + 1) []

/-- The colon behind a key. -/
def colon : Reader Unit := do
  match ← skipBlanks with
  | some ':' => advance
  | some _ => failNext .expectedColon
  | none => failNext (.unexpectedEnd .object)

/-- The members of an object, up to and with its closing bracket. `member` is handed what
the members before it came to and the key, and reads from behind the key. -/
def membersTail {σ : Type} (member : σ → String → Reader σ) :
    (steps : Nat) → (first : Bool) → (done : σ) → Reader σ
  | 0, _, _ => failHere (.unexpectedEnd .object)
  | steps + 1, first, done => do
    match ← skipBlanks with
    | none => failNext (.unexpectedEnd .object)
    | some '}' => do
      advance
      return done
    | some c =>
      if first then
        if c = '"' then do
          advance
          membersTail member steps false (← member done (← stringBody))
        else failNext .keyNotString
      else if c = ',' then do
        advance
        match ← skipBlanks with
        | some '"' => do
          advance
          membersTail member steps false (← member done (← stringBody))
        | some '}' => failNext .trailingComma
        | some _ => failNext .keyNotString
        | none => failNext (.unexpectedEnd .value)
      else failNext .expectedObjectEnd

/-- The members of an object, from behind its opening bracket. -/
def members {σ : Type} (init : σ) (member : σ → String → Reader σ) : Reader σ := do
  settle (membersTail member ((← remaining) + 1) true init)

/-! ### Values -/

/-- A value that is no container; at an opening bracket, which is left in place,
`container` reads on. -/
def scalarOr (container : Char → Reader Json) : Reader Json := do
  match ← skipBlanks with
  | none => failNext (.unexpectedEnd .value)
  | some 'n' => do advance; literal .null ['u', 'l', 'l']
  | some 't' => do advance; literal (.bool true) ['r', 'u', 'e']
  | some 'f' => do advance; literal (.bool false) ['a', 'l', 's', 'e']
  | some '-' => do advance; number true
  | some '"' => do advance; .string <$> stringBody
  | some c =>
    if isDigit c then number false
    else if c = '[' || c = '{' then container c
    else failNext .expectedValue

/-- A value in which containers nest at most `depth` deep. -/
def value : (depth : Nat) → Reader Json
  | 0 => scalarOr fun _ => failNext .tooDeep
  | depth + 1 => scalarOr fun bracket => do
    advance
    if bracket = '[' then .array <$> items (value depth)
    else
      .object <$> members [] fun done key => do
        colon
        return Entries.insert key (← value depth) done

/-- How deep containers may nest. -/
def maxDepth : Nat := 127

/-- Nothing but blanks is left. -/
def atEnd : Reader Unit := do
  if (← skipBlanks).isSome then failNext .trailingCharacters

/-- Read the whole of `text`. -/
def run {α : Type} (reader : Reader α) (text : String) : Except ReadError α :=
  match (do let a ← reader; atEnd; return a : Reader α) (Cursor.ofString text) with
  | .ok (a, _) => .ok a
  | .error fault => .error fault.error

end Reader

/-- The value that `text` is the text of. -/
def parse (text : String) : Except ReadError Json := (Reader.value Reader.maxDepth).run text

end TransformerEngine.Json
