import TransformerEngine.Text.EscapeTable

/-!
# Quoted texts

How a text is shown inside a message: between double quotes, with the quote, the
backslash, tab, line feed, carriage return and NUL as two-character escapes, and every
other character that has no visible form of its own as its code point in braces.
-/

namespace TransformerEngine.Text

/-- The digits of `n` in base sixteen, lower case, without leading zeros. -/
def hexDigits (n : Nat) : String := String.ofList (Nat.toDigits 16 n)

/-- `c` has a visible form of its own, or is the space. -/
def isVisible (c : Char) : Bool :=
  if c.toNat < 0x7F then 0x20 ≤ c.toNat else !inRanges escapedRanges c

/-- The form of `c` between double quotes. -/
def quoteChar (c : Char) : String :=
  if c = '"' then "\\\""
  else if c = '\\' then "\\\\"
  else if c = '\t' then "\\t"
  else if c = '\n' then "\\n"
  else if c = '\r' then "\\r"
  else if c.toNat = 0 then "\\0"
  else if isVisible c then c.toString
  else "\\u\x7b" ++ hexDigits c.toNat ++ "\x7d"

/-- `text` between double quotes. -/
def quoted (text : String) : String :=
  "\"" ++ String.join (text.toList.map quoteChar) ++ "\""

end TransformerEngine.Text
