import Scaffold.Text.DecimalDigit

/-!
Texts that write numbers: digits with or without a point and an exponent, and the words for what is
infinite or no number.
-/

namespace Scaffold.Text

private def dropSign : List Char → List Char
  | '+' :: cs => cs
  | '-' :: cs => cs
  | cs => cs

private def isExponent : List Char → Bool
  | [] => true
  | e :: cs =>
      let digits := dropSign cs
      (e == 'e' || e == 'E') && !digits.isEmpty && digits.all isAsciiDigit

private def isDecimal (cs : List Char) : Bool :=
  let whole := cs.takeWhile isAsciiDigit
  match cs.dropWhile isAsciiDigit with
  | '.' :: rest =>
      !(whole.isEmpty && (rest.takeWhile isAsciiDigit).isEmpty)
        && isExponent (rest.dropWhile isAsciiDigit)
  | rest => !whole.isEmpty && isExponent rest

def isNumeral (cs : List Char) : Bool :=
  let unsigned := dropSign cs
  ["inf", "infinity", "nan"].contains (String.ofList unsigned).toLower || isDecimal unsigned

end Scaffold.Text
