import Scaffold.Decimal.Power

/-!
The shortest decimal text of a double: the fewest digits that read back as the same double, and of
those the nearest to it. All arithmetic is exact.
-/

namespace Scaffold.Decimal

/-- A finite double without its sign: `mantissa * 2 ^ exponent`. `wide` says that the next double
below is half as far away as the next one above. -/
structure Magnitude where
  mantissa : Nat
  exponent : Int
  wide : Bool
  deriving DecidableEq, Repr

inductive Class where
  | nan
  | infinite (negative : Bool)
  | finite (negative : Bool) (magnitude : Magnitude)
  deriving DecidableEq, Repr

def leadingBit : Nat := 0x10000000000000

def classify (x : Float) : Class :=
  let bits := x.toBits.toNat
  let negative := 0x8000000000000000 ≤ bits
  let exponent : Nat := bits / leadingBit % 2048
  let fraction := bits % leadingBit
  if exponent = 2047 then
    if fraction = 0 then .infinite negative else .nan
  else if exponent = 0 then .finite negative ⟨fraction, -1074, false⟩
  else
    .finite negative
      ⟨leadingBit + fraction, Int.ofNat exponent - 1075, fraction = 0 && decide (1 < exponent)⟩

/-- The number `digits * 10 ^ exponent`. -/
structure Digits where
  digits : Nat
  exponent : Int
  deriving DecidableEq, Repr

structure Interval where
  low : Nat
  value : Nat
  high : Nat
  den : Nat
  closed : Bool
  deriving DecidableEq, Repr

/-- The numbers that read back as a magnitude. The ends belong to it when its mantissa is even,
as ties go to even. -/
def Magnitude.interval (x : Magnitude) : Interval :=
  let q := x.exponent - 2
  let num := twoTo q.toNat
  let below := if x.wide then 1 else 2
  ⟨(4 * x.mantissa - below) * num, 4 * x.mantissa * num, (4 * x.mantissa + 2) * num,
    twoTo (-q).toNat, x.mantissa % 2 = 0⟩

def Interval.contains (i : Interval) (d : Digits) : Bool :=
  let point := d.digits * tenTo d.exponent.toNat * i.den
  let scale := tenTo (-d.exponent).toNat
  if i.closed then i.low * scale ≤ point && point ≤ i.high * scale
  else i.low * scale < point && point < i.high * scale

/-- The number of decimal places before the point, less one: `10 ^ e ≤ value / den < 10 ^ (e + 1)`
for a value that is not zero. -/
def Interval.leading (i : Interval) : Int :=
  if i.den ≤ i.value then ((Nat.toDigits 10 (i.value / i.den)).length : Int) - 1
  else -((Nat.toDigits 10 ((i.den - 1) / i.value)).length : Int)

/-- The nearer of the two neighbours of the value on the grid of multiples of `10 ^ exponent`, if
the interval holds one. An exact tie goes to the even one. -/
def Interval.nearest? (i : Interval) (exponent : Int) : Option Digits :=
  let unit := tenTo exponent.toNat * i.den
  let value := i.value * tenTo (-exponent).toNat
  let low : Digits := ⟨value / unit, exponent⟩
  let high : Digits := ⟨value / unit + 1, exponent⟩
  let twice := 2 * (value % unit)
  let preferHigh := unit < twice || (unit == twice && low.digits % 2 == 1)
  match i.contains low, i.contains high with
  | true, true => some (if preferHigh then high else low)
  | true, false => some low
  | false, true => some high
  | false, false => none

def Interval.search (i : Interval) (exponent : Int) : Nat → Digits
  | 0 => ⟨0, 0⟩
  | tries + 1 =>
      match i.nearest? exponent with
      | some d => d
      | none => i.search (exponent - 1) tries

def Digits.trimmed (d : Digits) : Nat → Digits
  | 0 => d
  | n + 1 =>
      if d.digits % 10 = 0 && d.digits ≠ 0 then Digits.trimmed ⟨d.digits / 10, d.exponent + 1⟩ n
      else d

/-- The shortest digits of a magnitude. Seventeen digits always suffice. -/
def shortest (x : Magnitude) : Digits :=
  if x.mantissa = 0 then ⟨0, 0⟩
  else
    let i := x.interval
    (i.search i.leading 18).trimmed 20

end Scaffold.Decimal
