import CampusBoard.Number.Binary64

/-!
# Shortest decimal text

A finite number is written with the fewest decimal digits that read back as the same number, and
of all such decimals with the nearest one.

## Main definitions

* `CampusBoard.Binary64.shortest`: the digits and the place of the decimal point.
* `CampusBoard.Binary64.text`: the written form, never in scientific notation and always with a
  decimal point.

## Design

The numbers that round to `x` form an interval, whose ends belong to it exactly when the
significand of `x` is even. For one digit, two digits and so on the two points of the decimal grid
beside `x` are tested against that interval. Seventeen digits always suffice.
-/

set_option autoImplicit false

namespace CampusBoard.Binary64

/-- The reals that round to one number, as numerators over a common denominator. -/
structure Interval where
  /-- The lower end. -/
  low : Nat
  /-- The number itself. -/
  mid : Nat
  /-- The upper end. -/
  high : Nat
  /-- The common denominator. -/
  den : Nat
  /-- Whether the two ends belong to the interval. -/
  closed : Bool

/-- The interval of the reals that round to a positive magnitude. Below a power of two the gap is
half as wide as above it. -/
def Magnitude.interval (m : Magnitude) : Interval :=
  let below := if m.significand = Nat.pow 2 52 ∧ leastScale < m.scale then 1 else 2
  let scale := m.scale - 2
  let factor := if 0 ≤ scale then Nat.pow 2 scale.toNat else 1
  let den := if 0 ≤ scale then 1 else Nat.pow 2 (-scale).toNat
  { low := (4 * m.significand - below) * factor
    mid := 4 * m.significand * factor
    high := (4 * m.significand + 2) * factor
    den := den
    closed := m.significand % 2 = 0 }

/-- The exponent `e` with `10 ^ (e - 1) ≤ num / den < 10 ^ e`, for positive `num` and `den`. -/
def decimalExponent (num den : Nat) : Int :=
  let e : Int := ((Nat.toDigits 10 num).length : Int) - ((Nat.toDigits 10 den).length : Int)
  let reached := if 0 ≤ e then den * Nat.pow 10 e.toNat ≤ num else den ≤ num * Nat.pow 10 (-e).toNat
  if reached then e + 1 else e

/-- A decimal `digits * 10 ^ exponent`. -/
structure Decimal where
  /-- The significand. -/
  digits : Nat
  /-- The power of ten. -/
  exponent : Int

/-- Whether `count * unit` lies in the interval, for a unit given as a ratio. -/
def Interval.has (i : Interval) (count unitNum unitDen : Nat) : Bool :=
  let point := count * unitNum * i.den
  let low := i.low * unitDen
  let high := i.high * unitDen
  if i.closed then low ≤ point && point ≤ high else low < point && point < high

/-- The nearest of the grid points beside the number that lie in the interval, on the grid of
`10 ^ exponent`. -/
def Interval.onGrid? (i : Interval) (exponent : Int) : Option Decimal :=
  let unitNum := if 0 ≤ exponent then Nat.pow 10 exponent.toNat else 1
  let unitDen := if 0 ≤ exponent then 1 else Nat.pow 10 (-exponent).toNat
  let exact := i.mid * unitDen
  let step := unitNum * i.den
  let count := exact / step
  let lower := i.has count unitNum unitDen
  let upper := i.has (count + 1) unitNum unitDen
  if lower && (!upper || 2 * (exact % step) ≤ step) then some ⟨count, exponent⟩
  else if upper then some ⟨count + 1, exponent⟩
  else none

/-- The decimal with the fewest digits in the interval, the grids tried from `digits` digits on. -/
def Interval.search (i : Interval) (top : Int) (digits : Nat) : Nat → Decimal
  | 0 => ⟨i.mid / i.den, 0⟩
  | tries + 1 =>
    match i.onGrid? (top - digits) with
    | some d => d
    | none => i.search top (digits + 1) tries

/-- The shortest decimal that reads back as the positive magnitude `m`. -/
def Magnitude.shortest (m : Magnitude) : Decimal :=
  let i := m.interval
  i.search (decimalExponent i.mid i.den) 1 17

/-- The decimal in positional notation, always with a point and a digit on either side of it. -/
def Decimal.positional (d : Decimal) : List Char :=
  let digits := Nat.toDigits 10 d.digits
  if 0 ≤ d.exponent then digits ++ List.replicate d.exponent.toNat '0' ++ ['.', '0']
  else
    let places := (-d.exponent).toNat
    let filled := List.replicate (places + 1 - digits.length) '0' ++ digits
    filled.take (filled.length - places) ++ ['.'] ++ filled.drop (filled.length - places)

/-- The shortest decimal that reads back as the magnitude of `x`. -/
def shortest (x : Binary64) : Decimal :=
  if x.magnitudeBits = 0 then ⟨0, 0⟩ else x.magnitude.shortest

/-- The written form of a finite number. -/
def text (x : Binary64) : String :=
  String.ofList ((if x.isNegative then ['-'] else []) ++ x.shortest.positional)

end CampusBoard.Binary64
