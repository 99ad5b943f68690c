import TransformerEngine.Number.Binary64

/-!
# Decimal numbers

A number that is not an integer is kept as the shortest decimal that rounds to the same
binary64 value, with its sign; so equal values have equal decimals, and printing needs no
search.

`Layout` says where positional notation ends. `Decimal.render` writes the fewest digits
that read back, positional or scientific as the layout says.
-/

namespace TransformerEngine.Number

/-- The number `± digits · 10 ^ exponent`. -/
structure Decimal where
  /-- Whether the number carries a minus sign; zero may. -/
  negative : Bool
  /-- The significant digits, as one natural number. -/
  digits : Nat
  /-- The power of ten of the last digit. -/
  exponent : Int
deriving DecidableEq, Repr, Inhabited

/-- Where a decimal is written positionally: the powers of ten of the first digit, from
`least` up to but without `limit`. -/
structure Layout where
  /-- The least power of ten of a positional first digit. -/
  least : Int
  /-- The power of ten of the first digit at which scientific notation starts. -/
  limit : Int

namespace Decimal

/-- The decimal of a binary64 magnitude under a sign. -/
def ofBinary64 (negative : Bool) (x : Binary64) : Decimal :=
  let (digits, exponent) := x.shortest
  ⟨negative, digits, exponent⟩

/-- `n` zeros. -/
def zeros (n : Nat) : String := String.ofList (List.replicate n '0')

/-- The digits of `n`, `point` of them before the decimal point and at least one after it. -/
def splitAt (digits : List Char) (point : Nat) : String :=
  String.ofList (digits.take point) ++ "." ++ String.ofList (digits.drop point)

/-- Positional notation, with at least one digit on each side of the point. -/
def positional (digits : List Char) (exponent : Int) : String :=
  let point : Int := digits.length + exponent
  if 0 ≤ exponent then String.ofList digits ++ zeros exponent.toNat ++ ".0"
  else if 0 < point then splitAt digits point.toNat
  else "0." ++ zeros (-point).toNat ++ String.ofList digits

/-- Scientific notation: one digit before the point, no point after a lone digit, and a
signed exponent. -/
def scientific (digits : List Char) (power : Int) : String :=
  let mantissa := if digits.length ≤ 1 then String.ofList digits else splitAt digits 1
  let sign := if 0 ≤ power then "+" else "-"
  mantissa ++ "e" ++ sign ++ toString power.natAbs

/-- The text of a decimal under `layout`. Zero is always positional. -/
def render (layout : Layout) (x : Decimal) : String :=
  let digits := Nat.toDigits 10 x.digits
  let power : Int := digits.length - 1 + x.exponent
  let sign := if x.negative then "-" else ""
  sign ++
    if x.digits = 0 then "0.0"
    else if layout.least ≤ power ∧ power < layout.limit then positional digits x.exponent
    else scientific digits power

end Decimal

end TransformerEngine.Number
