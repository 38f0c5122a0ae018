import Scaffold.Decimal.Shortest

/-!
The double nearest to a decimal number. Of two that are equally near, the one with an even significand
is taken.
-/

namespace Scaffold.Decimal

/-- The largest `k` with `2 ^ k ≤ n / d`, for positive `n` and `d`. -/
def binaryExponent (n d : Nat) : Int :=
  let k : Int := (n.log2 : Int) - d.log2
  if d * twoTo k.toNat ≤ n * twoTo (-k).toNat then k else k - 1

/-- A quotient rounded to the nearest whole number, a half to the even one. -/
def roundHalfEven (n d : Nat) : Nat :=
  let q := n / d
  let r := n % d
  if 2 * r < d then q
  else if d < 2 * r then q + 1
  else q + q % 2

/-- The bits of the double nearest to `n / d`. The unit is a power of two that leaves a significand of
53 bits, or the smallest unit there is. A significand that rounding carries to 54 bits carries into
the exponent of the result. -/
def quotientBits (n d : Nat) : Nat :=
  if n = 0 then 0
  else
    let unit := max (binaryExponent n d - 52) (-1074)
    (unit + 1074).toNat * leadingBit
      + roundHalfEven (n * twoTo (-unit).toNat) (d * twoTo unit.toNat)

def infiniteBits : Nat := 0x7ff * leadingBit

/-- Powers of ten beyond which a number of so many digits is certainly zero or infinite. -/
def exponentBound : Int := 400

/-- The double nearest to `digits * 10 ^ exponent`; none beyond the largest. -/
def nearest? (digits : Nat) (exponent : Int) : Option Float :=
  let leading := exponent + (Nat.repr digits).length
  if digits = 0 || leading < -exponentBound then some 0
  else if exponentBound < leading then none
  else
    let bits := quotientBits (digits * tenTo exponent.toNat) (tenTo (-exponent).toNat)
    if infiniteBits ≤ bits then none else some (Float.ofBits bits.toUInt64)

end Scaffold.Decimal
