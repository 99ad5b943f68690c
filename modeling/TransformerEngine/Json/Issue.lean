import TransformerEngine.Json.Printer

/-!
# What can be wrong with a JSON text

An `Issue` says what is wrong, a `Position` says where. Lines count from one; columns
count bytes of UTF-8 since the line began, so that a position can be found in any editor
that counts bytes.
-/

namespace TransformerEngine.Json

/-- A place in a text: a line, and the number of bytes before the place on that line. -/
structure Position where
  /-- The line, the first being 1. -/
  line : Nat
  /-- The bytes of the line that lie before the place. -/
  column : Nat
deriving DecidableEq, Repr

namespace Position

/-- Where a text starts. -/
def start : Position := ⟨1, 0⟩

/-- The place after `bytes` bytes of the character `c`. -/
def within (p : Position) (c : Char) (bytes : Nat) : Position :=
  if c = '\n' then ⟨p.line + 1, 0⟩ else ⟨p.line, p.column + bytes⟩

/-- The place after the character `c`. -/
def after (p : Position) (c : Char) : Position := p.within c c.utf8Size

/-- The place `bytes` bytes into the characters `cs`. -/
def afterBytes (p : Position) : (bytes : Nat) → List Char → Position
  | 0, _ | _, [] => p
  | bytes, c :: cs =>
    if c.utf8Size ≤ bytes then (p.after c).afterBytes (bytes - c.utf8Size) cs
    else p.within c bytes

end Position

/-- What was being read when the text ended. -/
inductive Part where
  | value
  | object
  | list
  | string
deriving DecidableEq, Repr

/-- The part in words. -/
def Part.name : Part → String
  | .value => "a value"
  | .object => "an object"
  | .list => "a list"
  | .string => "a string"

/-- What stands where a value of another type was asked for. -/
inductive Found where
  | null
  | bool (value : Bool)
  | int (value : Int)
  | decimal (value : Number.Decimal)
  | string (value : String)
  | sequence
  | map
deriving DecidableEq, Repr

/-- What a value is, seen from outside. -/
def Found.ofJson : Json → Found
  | .null => .null
  | .bool b => .bool b
  | .int n => .int n
  | .decimal x => .decimal x
  | .string s => .string s
  | .array _ => .sequence
  | .object _ => .map

/-- What was found, in words. -/
def Found.describe : Found → String
  | .null => "null"
  | .bool b => s!"boolean `{b}`"
  | .int n => s!"integer `{n}`"
  | .decimal x => s!"floating point `{x.render numberLayout}`"
  | .string s => "string " ++ Text.quoted s
  | .sequence => "sequence"
  | .map => "map"

/-- What is wrong with a text. -/
inductive Issue where
  /-- The text ends inside a part. -/
  | unexpectedEnd (part : Part)
  /-- A character that begins no value. -/
  | expectedValue
  /-- A word that is neither `true` nor `false` nor `null`. -/
  | expectedLiteral
  /-- A key that is no string. -/
  | keyNotString
  /-- No colon after a key. -/
  | expectedColon
  /-- A comma before a closing bracket. -/
  | trailingComma
  /-- Neither a comma nor the end after a member. -/
  | expectedObjectEnd
  /-- Neither a comma nor the end after an item. -/
  | expectedListEnd
  /-- Something after the end of the value. -/
  | trailingCharacters
  /-- Too many containers inside each other. -/
  | tooDeep
  /-- An escape that JSON does not have. -/
  | invalidEscape
  /-- Half a surrogate pair, followed by something that is no escape. -/
  | unfinishedPair
  /-- Half a surrogate pair without the other half. -/
  | loneSurrogate
  /-- A control character inside a string. -/
  | controlCharacter
  /-- A number too large for binary64. -/
  | numberOutOfRange
  /-- Characters that form no number. -/
  | invalidNumber
  /-- A value of another type than asked for. -/
  | wrongType (found : Found) (expected : String)
  /-- A key that may stand only once. -/
  | duplicateField (name : String)
  /-- A value that its type refuses, with the reason. -/
  | refused (reason : String)
deriving DecidableEq, Repr

/-- The issue in words. -/
def Issue.describe : Issue → String
  | .unexpectedEnd part => s!"EOF while parsing {part.name}"
  | .expectedValue => "expected value"
  | .expectedLiteral => "expected ident"
  | .keyNotString => "key must be a string"
  | .expectedColon => "expected `:`"
  | .trailingComma => "trailing comma"
  | .expectedObjectEnd => "expected `,` or `\x7d`"
  | .expectedListEnd => "expected `,` or `]`"
  | .trailingCharacters => "trailing characters"
  | .tooDeep => "recursion limit exceeded"
  | .invalidEscape => "invalid escape"
  | .unfinishedPair => "unexpected end of hex escape"
  | .loneSurrogate => "lone leading surrogate in hex escape"
  | .controlCharacter => "control character (\\u0000-\\u001F) found while parsing a string"
  | .numberOutOfRange => "number out of range"
  | .invalidNumber => "invalid number"
  | .wrongType found expected => s!"invalid type: {found.describe}, expected {expected}"
  | .duplicateField name => s!"duplicate field `{name}`"
  | .refused reason => reason

/-- An issue with its place. -/
structure ReadError where
  /-- What is wrong. -/
  issue : Issue
  /-- Where it is. -/
  position : Position
deriving DecidableEq, Repr

/-- The message of an error: what and where. -/
def ReadError.message (e : ReadError) : String :=
  s!"{e.issue.describe} at line {e.position.line} column {e.position.column}"

end TransformerEngine.Json
