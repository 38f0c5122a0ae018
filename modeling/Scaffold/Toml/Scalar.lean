import Scaffold.Decimal.Nearest
import Scaffold.Text.HexDigit
import Scaffold.Toml.Basic

/-!
Scalars without quotes: booleans, integers, floats, dates and times.
-/

namespace Scaffold.Toml

/-- A row of digits without the underscores that may stand between two of them. -/
def plainDigits? (isDigit : Char → Bool) : List Char → Option (List Char)
  | [] => none
  | [c] => if isDigit c then some [c] else none
  | c :: '_' :: rest => if isDigit c then (c :: ·) <$> plainDigits? isDigit rest else none
  | c :: rest => if isDigit c then (c :: ·) <$> plainDigits? isDigit rest else none

def decimalDigits? : List Char → Option (List Char) :=
  plainDigits? Text.isAsciiDigit

/-- Decimal digits that do not start with a zero, unless that is all. -/
def wholeDigits? (cs : List Char) : Option (List Char) := do
  let digits ← decimalDigits? cs
  if digits.head? == some '0' && digits.length ≠ 1 then none else some digits

def splitSign : List Char → Bool × List Char
  | '-' :: cs => (true, cs)
  | '+' :: cs => (false, cs)
  | cs => (false, cs)

def integerOf? (negative : Bool) (n : Nat) : Option Toml :=
  let value : Int := if negative then -n else n
  if fitsInteger value then some (.integer value) else none

private def radixNumber? (radix : Nat) (cs : List Char) : Option Nat := do
  let isDigit (c : Char) : Bool := (Text.hexValue? c).any (· < radix)
  let digits ← plainDigits? isDigit cs
  digits.foldlM (fun n c => (Text.hexValue? c).map (n * radix + ·)) 0

def readInteger? (cs : List Char) : Option Toml :=
  match cs with
  | '0' :: 'x' :: rest => radixNumber? 16 rest >>= integerOf? false
  | '0' :: 'o' :: rest => radixNumber? 8 rest >>= integerOf? false
  | '0' :: 'b' :: rest => radixNumber? 2 rest >>= integerOf? false
  | cs => do
      let (negative, cs) := splitSign cs
      integerOf? negative (Text.digitsToNat (← wholeDigits? cs))

private def isExponentMark (c : Char) : Bool :=
  c == 'e' || c == 'E'

private def fractionDigits? : List Char → Option (List Char)
  | [] => some []
  | _ :: rest => decimalDigits? rest

private def exponent? : List Char → Option Int
  | [] => some 0
  | _ :: rest => do
      let (negative, cs) := splitSign rest
      let n := Text.digitsToNat (← decimalDigits? cs)
      return if negative then -n else n

private def signed (negative : Bool) (x : Float) : Float :=
  if negative then -x else x

def readFloat? (cs : List Char) : Option Toml := do
  let (negative, cs) := splitSign cs
  if cs = ['i', 'n', 'f'] then return .float (signed negative (1.0 / 0.0))
  if cs = ['n', 'a', 'n'] then return .float (0.0 / 0.0)
  if !cs.any fun c => c == '.' || isExponentMark c then none
  let mantissa := cs.takeWhile fun c => !isExponentMark c
  let whole ← wholeDigits? (mantissa.takeWhile (· != '.'))
  let fraction ← fractionDigits? (mantissa.dropWhile (· != '.'))
  let exponent ← exponent? (cs.dropWhile fun c => !isExponentMark c)
  let digits := Text.digitsToNat (whole ++ fraction)
  let x ← Decimal.nearest? digits (exponent - fraction.length)
  return .float (signed negative x)

def readScalar? (cs : List Char) : Option Toml :=
  match String.ofList cs with
  | "true" => some (.boolean true)
  | "false" => some (.boolean false)
  | _ => (readInteger? cs).or ((readFloat? cs).or ((Datetime.read? cs).map .datetime))

end Scaffold.Toml
