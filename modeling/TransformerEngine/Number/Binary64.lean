/-!
# Binary64 magnitudes

The finite non-negative values of the IEEE 754 format with 53 significant bits, in exact
arithmetic on natural numbers. `ofRatio` rounds a quotient to the nearest such value, a
tie going to the even significand; products and quotients are the exact ones rounded
once.

`shortest` is the way back to decimal: of the decimals that round to a value it takes
one with the fewest digits, and of those the nearest. It tries the grids of multiples of
`10 ^ g` from coarse to fine and on each grid only the two neighbours of the value.
-/

namespace TransformerEngine.Number

/-- The value `significand · 2 ^ exponent`. -/
structure Binary64 where
  /-- At most 53 bits. -/
  significand : Nat
  /-- At least `minExponent`. -/
  exponent : Int
deriving DecidableEq, Repr

namespace Binary64

/-- Two multiplied by itself `k` times. -/
def powerOfTwo (k : Nat) : Nat := Nat.pow 2 k

/-- Ten multiplied by itself `k` times. -/
def powerOfTen (k : Nat) : Nat := Nat.pow 10 k

/-- The smallest significand of 53 bits. -/
def leastFull : Nat := powerOfTwo 52

/-- The exponent of the smallest positive value. -/
def minExponent : Int := -1074

/-- The exponent of the largest value. -/
def maxExponent : Int := 971

/-- The value 0. -/
def zero : Binary64 := ⟨0, minExponent⟩

/-- The integer nearest to `num / den`, the even one of two. -/
def roundHalfEven (num den : Nat) : Nat :=
  let q := num / den
  let r := num % den
  if 2 * r < den then q
  else if den < 2 * r then q + 1
  else if q % 2 = 0 then q else q + 1

/-- The value nearest to `num / den`, or `none` where that is too large. -/
def ofRatio (num den : Nat) : Option Binary64 :=
  if num = 0 then some zero
  else
    let scaleUp (e : Int) : Nat := num * powerOfTwo (-e).toNat
    let scaleDown (e : Int) : Nat := den * powerOfTwo e.toNat
    let guess : Int := (Nat.log2 num : Int) - Nat.log2 den - 52
    let fitted := if scaleUp guess / scaleDown guess < leastFull then guess - 1 else guess
    let e := max fitted minExponent
    let m := roundHalfEven (scaleUp e) (scaleDown e)
    let value : Binary64 := if m = 2 * leastFull then ⟨leastFull, e + 1⟩ else ⟨m, e⟩
    if value.exponent ≤ maxExponent then some value else none

/-- The value nearest to the natural number `n`. -/
def ofNat (n : Nat) : Option Binary64 := ofRatio n 1

/-- The numerator of the value as a fraction over `den`. -/
def num (x : Binary64) : Nat := x.significand * powerOfTwo x.exponent.toNat

/-- The denominator of the value as a fraction under `num`. -/
def den (x : Binary64) : Nat := powerOfTwo (-x.exponent).toNat

/-- The product, rounded; `none` where it is too large. -/
def mul (x y : Binary64) : Option Binary64 := ofRatio (x.num * y.num) (x.den * y.den)

/-- The quotient, rounded; `none` where it is too large. -/
def div (x y : Binary64) : Option Binary64 := ofRatio (x.num * y.den) (x.den * y.num)

/-- The largest power of ten that is not too large. -/
def maxPowerOfTen : Nat := 308

/-- `x · 10 ^ k`: the power of ten and the product are rounded each. -/
def timesPowerOfTen (x : Binary64) (k : Nat) : Option Binary64 :=
  if k ≤ maxPowerOfTen then (ofNat (powerOfTen k)).bind x.mul
  else if x.significand = 0 then some zero
  else none

/-- `x` divided `steps` times by the largest power of ten, each quotient rounded. -/
def overLargestPower (x : Binary64) : (steps : Nat) → Option Binary64
  | 0 => some x
  | steps + 1 =>
    if x.significand = 0 then some x
    else ((ofNat (powerOfTen maxPowerOfTen)).bind x.div).bind fun y => overLargestPower y steps

/-- `x / 10 ^ k`: powers of ten beyond the largest are divided out in several steps; each
power and each quotient is rounded. -/
def overPowerOfTen (x : Binary64) (k : Nat) : Option Binary64 :=
  let steps := (k - 1) / maxPowerOfTen
  (x.overLargestPower steps).bind fun y =>
    (ofNat (powerOfTen (k - steps * maxPowerOfTen))).bind y.div

/-- The value of `significand · 10 ^ exponent`, scaled in rounded steps; `none` where it
is too large. -/
def ofScientific (significand : Nat) (exponent : Int) : Option Binary64 :=
  (ofNat significand).bind fun x =>
    if 0 ≤ exponent then x.timesPowerOfTen exponent.toNat
    else x.overPowerOfTen (-exponent).toNat

/-! ### The shortest decimal -/

/-- One grid of the search for the shortest decimal of `x`: the multiple of `10 ^ g` next
to `x` that rounds to `x`, if there is one. All quantities are counted in quarters of the
last place of `x`; the gap below a power of two is half the gap above it. -/
def hitOnGrid (x : Binary64) (g : Int) : Option Nat :=
  let value := 4 * x.significand
  let low := if x.significand = leastFull ∧ minExponent < x.exponent then value - 1 else value - 2
  let high := value + 2
  let quarter := x.exponent - 2
  let n := powerOfTwo quarter.toNat * powerOfTen (-g).toNat
  let d := powerOfTwo (-quarter).toNat * powerOfTen g.toNat
  let endsIncluded := x.significand % 2 = 0
  let inside (k : Nat) : Bool :=
    if endsIncluded then low * n ≤ k * d && k * d ≤ high * n
    else low * n < k * d && k * d < high * n
  let below := value * n / d
  let above := below + 1
  match inside below, inside above with
  | true, true =>
    if 2 * (value * n) < (2 * below + 1) * d then some below
    else if (2 * below + 1) * d < 2 * (value * n) then some above
    else if below % 2 = 0 then some below else some above
  | true, false => some below
  | false, true => some above
  | false, false => none

/-- The first grid with a hit, from `10 ^ g` downwards: digits and power of ten. The
search ends after `steps` grids. -/
def firstHit (x : Binary64) : (steps : Nat) → (g : Int) → Nat × Int
  | 0, g => (0, g)
  | steps + 1, g =>
    match x.hitOnGrid g with
    | some digits => (digits, g)
    | none => firstHit x steps (g - 1)

/-- A power of ten above every decimal that rounds to `x`. -/
def gridAbove (x : Binary64) : Int :=
  ((Nat.log2 (4 * x.significand) : Int) + x.exponent - 1) * 30103 / 100000 + 1

/-- The shortest decimal `digits · 10 ^ e` that rounds to `x`, the nearest of those.
Seventeen digits always suffice, and `gridAbove` overshoots by two at most. -/
def shortest (x : Binary64) : Nat × Int :=
  if x.significand = 0 then (0, 0) else x.firstHit 20 x.gridAbove

end Binary64

end TransformerEngine.Number
