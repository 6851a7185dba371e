/-!
# Binary floating-point numbers of 64 bits

A number is kept as its bit pattern: a sign, eleven bits of exponent and fifty-two bits of
significand. All arithmetic on it is exact arithmetic on natural numbers followed by one rounding
to the nearest number, a half going to the even neighbour.

## Main definitions

* `CampusBoard.Binary64`: a number by its bit pattern.
* `CampusBoard.Binary64.roundRatio?`: the nearest number to a ratio, `none` when it is too large.
* `CampusBoard.Binary64.ofDecimal?`: the number read from a decimal significand and exponent.

## Design

A decimal is read in two roundings: the significand first, then one multiplication or division by
a rounded power of ten. The result is the nearest number whenever the significand is below `2 ^ 53`
and the power of ten is itself exact.
-/

set_option autoImplicit false

namespace CampusBoard

/-- A binary floating-point number by its bit pattern. -/
structure Binary64 where
  /-- The sign, the biased exponent and the significand without its leading one. -/
  bits : UInt64
  deriving DecidableEq, Repr

namespace Binary64

/-- The integer nearest to `num / den`, a half going to the even neighbour. -/
def roundQuotient (num den : Nat) : Nat :=
  let whole := num / den
  let twice := 2 * (num % den)
  if twice < den then whole
  else if den < twice then whole + 1
  else if whole % 2 = 0 then whole else whole + 1

/-- The exponent `e` with `2 ^ e ≤ num / den < 2 ^ (e + 1)`, for positive `num` and `den`. -/
def binaryExponent (num den : Nat) : Int :=
  let e : Int := (num.log2 : Int) - (den.log2 : Int)
  let reached := if 0 ≤ e then den * Nat.pow 2 e.toNat ≤ num else den ≤ num * Nat.pow 2 (-e).toNat
  if reached then e else e - 1

/-- A non-negative finite number as a multiple `significand * 2 ^ scale`. -/
structure Magnitude where
  /-- The multiple of the unit. -/
  significand : Nat
  /-- The unit is two to this power. -/
  scale : Int

/-- The exponent of the smallest unit. -/
def leastScale : Int := -1074

/-- The number of bit patterns below the pattern of infinity. -/
def infinityBits : Nat := 2047 * Nat.pow 2 52

/-- The bit pattern of the non-negative number nearest to `num / den`, `none` when that is
infinite. A significand that rounds up to the next power of two carries into the exponent. -/
def ratioBits? (num den : Nat) : Option Nat :=
  if num = 0 then some 0
  else
    let scale := max (binaryExponent num den - 52) leastScale
    let significand :=
      if 0 ≤ scale then roundQuotient num (den * Nat.pow 2 scale.toNat)
      else roundQuotient (num * Nat.pow 2 (-scale).toNat) den
    let pattern := (scale - leastScale).toNat * Nat.pow 2 52 + significand
    if pattern < infinityBits then some pattern else none

/-- The magnitude that a bit pattern without sign stands for. -/
def magnitudeOfBits (pattern : Nat) : Magnitude :=
  let exponent : Nat := pattern / Nat.pow 2 52
  let fraction : Nat := pattern % Nat.pow 2 52
  if exponent = 0 then ⟨fraction, leastScale⟩
  else ⟨Nat.pow 2 52 + fraction, (exponent : Int) - 1 + leastScale⟩

/-- The ratio equal to `m`, as numerator and denominator. -/
def Magnitude.ratio (m : Magnitude) : Nat × Nat :=
  if 0 ≤ m.scale then (m.significand * Nat.pow 2 m.scale.toNat, 1)
  else (m.significand, Nat.pow 2 (-m.scale).toNat)

/-- Whether the sign bit is set. -/
def isNegative (x : Binary64) : Bool :=
  decide (Nat.pow 2 63 ≤ x.bits.toNat)

/-- The bit pattern without the sign. -/
def magnitudeBits (x : Binary64) : Nat :=
  x.bits.toNat % Nat.pow 2 63

/-- Whether `x` is neither infinite nor undefined. -/
def isFinite (x : Binary64) : Bool :=
  decide (x.magnitudeBits < infinityBits)

/-- The magnitude of a finite number. -/
def magnitude (x : Binary64) : Magnitude :=
  magnitudeOfBits x.magnitudeBits

/-- The number with the given sign and bit pattern. -/
def ofBits (negative : Bool) (pattern : Nat) : Binary64 :=
  ⟨UInt64.ofNat ((if negative then Nat.pow 2 63 else 0) + pattern)⟩

/-- The number nearest to `num / den` with the given sign, `none` when that is infinite. -/
def roundRatio? (negative : Bool) (num den : Nat) : Option Binary64 :=
  (ratioBits? num den).map (ofBits negative)

/-- The largest power of ten that is finite has this exponent. -/
def greatestPower : Nat := 308

/-- The ratio of the number nearest to `10 ^ n`, for `n` up to `greatestPower`. -/
def powerOfTen (n : Nat) : Nat × Nat :=
  (magnitudeOfBits ((ratioBits? (Nat.pow 10 n) 1).getD 0)).ratio

/-- The pattern nearest to the product of a pattern and `10 ^ n`. -/
def timesPower? (pattern n : Nat) : Option Nat :=
  let (num, den) := (magnitudeOfBits pattern).ratio
  let (powerNum, powerDen) := powerOfTen n
  ratioBits? (num * powerNum) (den * powerDen)

/-- The pattern nearest to the quotient of a pattern and `10 ^ n`. -/
def overPower? (pattern n : Nat) : Option Nat :=
  let (num, den) := (magnitudeOfBits pattern).ratio
  let (powerNum, powerDen) := powerOfTen n
  ratioBits? (num * powerDen) (den * powerNum)

/-- The pattern of `significand * 10 ^ exponent`: the significand is rounded first and then scaled
by a power of ten. A small exponent takes two divisions, and below these everything is zero. -/
def decimalBits? (significand : Nat) (exponent : Int) : Option Nat := do
  let start ← ratioBits? significand 1
  if start = 0 then return 0
  if 0 ≤ exponent then
    if exponent.toNat ≤ greatestPower then timesPower? start exponent.toNat else none
  else
    let n := (-exponent).toNat
    if n ≤ greatestPower then overPower? start n
    else if n ≤ 2 * greatestPower then
      let first ← overPower? start greatestPower
      overPower? first (n - greatestPower)
    else return 0

/-- The number with the given sign, decimal significand and decimal exponent, `none` when it is
too large. -/
def ofDecimal? (negative : Bool) (significand : Nat) (exponent : Int) : Option Binary64 :=
  (decimalBits? significand exponent).map (ofBits negative)

end Binary64

end CampusBoard
