import Scaffold.Decimal.Shortest

/-!
How the shortest digits of a double are laid out as text.
-/

namespace Scaffold.Decimal

/-- The choices of a format: the decimal exponents that are written positionally (all of them where
there is no range), and the texts of the values without digits. -/
structure Layout where
  positional : Option (Int × Int)
  nan : String
  infinite : String
  negativeInfinite : String

private def zeros (n : Nat) : String :=
  String.ofList (List.replicate n '0')

/-- Digits with the point after the first `whole` of them, padded by zeros on the side that lacks
digits; a number without a fraction ends in `.0`. -/
def spread (digits : String) (whole : Int) : String :=
  let cs := digits.toList
  if whole ≤ 0 then "0." ++ zeros (-whole).toNat ++ digits
  else if cs.length ≤ whole.toNat then digits ++ zeros (whole.toNat - cs.length) ++ ".0"
  else String.ofList (cs.take whole.toNat) ++ "." ++ String.ofList (cs.drop whole.toNat)

/-- One digit before the point, the exponent with its sign, and no point without a fraction. -/
def scientific (digits : String) (exponent : Int) : String :=
  let head := String.ofList (digits.toList.take 1)
  let tail := String.ofList (digits.toList.drop 1)
  let sign := if exponent < 0 then "-" else "+"
  head ++ (if tail.isEmpty then "" else "." ++ tail) ++ "e" ++ sign
    ++ Nat.repr exponent.natAbs

def Layout.ofDigits (layout : Layout) (d : Digits) : String :=
  if d.digits = 0 then "0.0"
  else
    let digits := Nat.repr d.digits
    let exponent := d.exponent + digits.length - 1
    let inRange :=
      match layout.positional with
      | some (low, high) => low ≤ exponent && exponent < high
      | none => true
    if inRange then spread digits (exponent + 1) else scientific digits exponent

def Layout.text (layout : Layout) (x : Float) : String :=
  match classify x with
  | .nan => layout.nan
  | .infinite false => layout.infinite
  | .infinite true => layout.negativeInfinite
  | .finite negative magnitude =>
      (if negative then "-" else "") ++ layout.ofDigits (shortest magnitude)

end Scaffold.Decimal
