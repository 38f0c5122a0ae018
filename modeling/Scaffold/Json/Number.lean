import Scaffold.Json.Basic
import Scaffold.Text.DecimalDigit

/-!
Numbers in JSON texts. A number without point and exponent that fits 64 bits is an integer. Any other
is a double: its leading digits, as many as fit 64 bits unsigned, scaled by one power of ten in
double arithmetic.
-/

namespace Scaffold.Json

structure Significand where
  digits : Nat
  exponent : Int
  full : Bool
  deriving DecidableEq, Repr

namespace Significand

def start : Significand := ⟨0, 0, false⟩

def maximum : Nat := 0xffffffffffffffff

private def digitValue (c : Char) : Nat := c.toNat - '0'.toNat

/-- A digit before the point. Once one does not fit, it and all after it only raise the exponent. -/
def pushWhole (s : Significand) (c : Char) : Significand :=
  if s.full then { s with exponent := s.exponent + 1 }
  else
    let digits := s.digits * 10 + digitValue c
    if maximum < digits then ⟨s.digits, s.exponent + 1, true⟩ else { s with digits }

/-- A digit after the point. Once one does not fit, it and all after it are dropped. -/
def pushFraction (s : Significand) (c : Char) : Significand :=
  if s.full then s
  else
    let digits := s.digits * 10 + digitValue c
    if maximum < digits then { s with full := true } else ⟨digits, s.exponent - 1, false⟩

def scaleDown (x : Float) (exponent : Int) : Nat → Float × Int
  | 0 => (x, exponent)
  | steps + 1 =>
      if exponent < -308 && x != 0 then
        scaleDown (x / Float.ofScientific 1 false 308) (exponent + 308) steps
      else (x, exponent)

/-- The number `digits * 10 ^ exponent` in double arithmetic; `none` past the largest double. -/
def toFloat? (digits : Nat) (exponent : Int) : Option Float :=
  let x := digits.toUInt64.toFloat
  if x == 0 then some 0
  else if 308 < exponent then none
  else if 0 ≤ exponent then
    let y := x * Float.ofScientific 1 false exponent.toNat
    if y.isInf then none else some y
  else
    let (y, rest) := scaleDown x exponent ((-exponent).toNat / 308)
    if y == 0 then some 0 else some (y / Float.ofScientific 1 false (-rest).toNat)

end Significand

structure Literal where
  negative : Bool
  whole : List Char
  fraction : Option (List Char)
  exponent : Option (Bool × List Char)

namespace Literal

/-- The largest exponent that is read; digits beyond it cannot bring a number back into range. -/
def exponentLimit : Nat := 0x7fffffff

def floatValue? (l : Literal) : Option Float :=
  let whole := l.whole.foldl Significand.pushWhole .start
  let s := (l.fraction.getD []).foldl Significand.pushFraction { whole with full := false }
  match l.exponent with
  | none => Significand.toFloat? s.digits s.exponent
  | some (negative, digits) =>
      let n := Text.digitsToNat digits
      if exponentLimit < n then
        if s.digits ≠ 0 && !negative then none else some 0
      else Significand.toFloat? s.digits (if negative then s.exponent - n else s.exponent + n)

def integerValue? (l : Literal) : Option Int :=
  let n := Text.digitsToNat l.whole
  if l.fraction.isSome || l.exponent.isSome then none
  else if l.negative then (if n ≠ 0 && n ≤ 0x8000000000000000 then some (-n) else none)
  else if n ≤ Significand.maximum then some n else none

def value (l : Literal) : Json :=
  match l.integerValue? with
  | some n => .integer n
  | none =>
      match l.floatValue? with
      | some x => .float (if l.negative then -x else x)
      | none => .unreadable

end Literal

private def readExponent? : List Char → Option (Option (Bool × List Char) × List Char)
  | [] => some (none, [])
  | c :: cs =>
      if c = 'e' || c = 'E' then
        let (negative, cs) :=
          match cs with
          | '-' :: cs => (true, cs)
          | '+' :: cs => (false, cs)
          | cs => (false, cs)
        let digits := cs.takeWhile Text.isAsciiDigit
        if digits.isEmpty then none
        else some (some (negative, digits), cs.dropWhile Text.isAsciiDigit)
      else some (none, c :: cs)

private def readFraction? : List Char → Option (Option (List Char) × List Char)
  | '.' :: cs =>
      let digits := cs.takeWhile Text.isAsciiDigit
      if digits.isEmpty then none else some (some digits, cs.dropWhile Text.isAsciiDigit)
  | cs => some (none, cs)

/-- Reads the longest number at the start of a text. A whole part of several digits does not start
with a zero; point and exponent need a digit after them. -/
def readNumber? (cs : List Char) : Option (Json × List Char) :=
  let (negative, cs) :=
    match cs with
    | '-' :: cs => (true, cs)
    | cs => (false, cs)
  let whole := cs.takeWhile Text.isAsciiDigit
  let rest := cs.dropWhile Text.isAsciiDigit
  if whole.isEmpty || (whole.head? == some '0' && whole.length ≠ 1) then none
  else do
    let (fraction, rest) ← readFraction? rest
    let (exponent, rest) ← readExponent? rest
    return (Literal.value ⟨negative, whole, fraction, exponent⟩, rest)

end Scaffold.Json
