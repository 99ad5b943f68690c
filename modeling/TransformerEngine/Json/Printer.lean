import TransformerEngine.Json.Basic
import TransformerEngine.Text.Quoted

/-!
# Compact JSON text

One line without blanks: members in their order, texts with the short escapes where JSON
has one, other control characters as four lower-case hexadecimal digits, and everything
else as it is. A number that is not an integer has its shortest digits, positional from
`0.00001` up to but without `1e+16`.
-/

namespace TransformerEngine.Json

/-- Numbers are positional while their first digit stands for a power of ten from `-5` to
`15`. -/
def numberLayout : Number.Layout := ⟨-5, 16⟩

/-- `n`, at least as wide as four hexadecimal digits. -/
def fourHexDigits (n : Nat) : String :=
  let digits := Text.hexDigits n
  Number.Decimal.zeros (4 - digits.length) ++ digits

/-- The form of `c` in a JSON text. -/
def escapeChar (c : Char) : String :=
  if c = '"' then "\\\""
  else if c = '\\' then "\\\\"
  else if c = '\n' then "\\n"
  else if c = '\r' then "\\r"
  else if c = '\t' then "\\t"
  else if c.toNat = 0x08 then "\\b"
  else if c.toNat = 0x0C then "\\f"
  else if c.toNat < 0x20 then "\\u" ++ fourHexDigits c.toNat
  else c.toString

/-- A text as a JSON string. -/
def renderString (text : String) : String :=
  "\"" ++ String.join (text.toList.map escapeChar) ++ "\""

mutual

/-- The compact text of a value. -/
def render : Json → String
  | .null => "null"
  | .bool true => "true"
  | .bool false => "false"
  | .int n => toString n
  | .decimal x => x.render numberLayout
  | .string text => renderString text
  | .array items => "[" ++ String.intercalate "," (renderItems items) ++ "]"
  | .object members =>
    "\x7b" ++ String.intercalate "," (renderMembers members) ++ "\x7d"

/-- The compact texts of the items of an array. -/
def renderItems : List Json → List String
  | [] => []
  | item :: rest => item.render :: renderItems rest

/-- The compact texts of the members of an object. -/
def renderMembers : List (String × Json) → List String
  | [] => []
  | (key, value) :: rest =>
    (renderString key ++ ":" ++ value.render) :: renderMembers rest

end

end TransformerEngine.Json
