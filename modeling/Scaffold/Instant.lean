import Scaffold.Decimal.Power
import Scaffold.Text.Blank
import Scaffold.Text.DecimalDigit

/-!
Instants: points in time, written in UTC with the fewest of 0, 3, 6 or 9 digits of a second that are
exact, and read from a date, a time and an offset.
-/

namespace Scaffold

/-- Seconds since the start of 1970 in UTC, and nanoseconds. From `10 ^ 9` on the nanoseconds lie in
a leap second that follows. -/
structure Instant where
  seconds : Int
  nanos : Nat
  deriving DecidableEq, Repr

namespace Instant

/-- Days from the start of 1970 to a date of the Gregorian calendar. Years are counted from March,
so that a leap day ends one. -/
def daysOfDate (year : Int) (month day : Nat) : Int :=
  let y := if month ≤ 2 then year - 1 else year
  let era := y / 400
  let yearOfEra := y % 400
  let fromMarch : Int := if 2 < month then month - 3 else month + 9
  let dayOfYear := (153 * fromMarch + 2) / 5 + day - 1
  let dayOfEra := yearOfEra * 365 + yearOfEra / 4 - yearOfEra / 100 + dayOfYear
  era * 146097 + dayOfEra - 719468

def dateOfDays (days : Int) : Int × Nat × Nat :=
  let shifted := days + 719468
  let era := shifted / 146097
  let dayOfEra := shifted % 146097
  let yearOfEra := (dayOfEra - dayOfEra / 1460 + dayOfEra / 36524 - dayOfEra / 146096) / 365
  let dayOfYear := dayOfEra - (365 * yearOfEra + yearOfEra / 4 - yearOfEra / 100)
  let fromMarch := (5 * dayOfYear + 2) / 153
  let day := dayOfYear - (153 * fromMarch + 2) / 5 + 1
  let month := if fromMarch < 10 then fromMarch + 3 else fromMarch - 9
  let year := yearOfEra + era * 400 + (if month ≤ 2 then 1 else 0)
  (year, month.toNat, day.toNat)

def isLeapYear (year : Int) : Bool :=
  year % 4 == 0 && (year % 100 != 0 || year % 400 == 0)

def daysInMonth (year : Int) (month : Nat) : Nat :=
  if month == 2 then (if isLeapYear year then 29 else 28)
  else if [4, 6, 9, 11].contains month then 30
  else 31

/-! Writing. -/

private def padded (width n : Nat) : String :=
  let digits := Nat.repr n
  String.ofList (List.replicate (width - digits.length) '0') ++ digits

/-- A year of four digits, or with a sign outside the range of those. -/
private def yearText (year : Int) : String :=
  if 0 ≤ year && year ≤ 9999 then padded 4 year.toNat
  else (if year < 0 then "-" else "+") ++ padded 4 year.natAbs

private def fractionText (nanos : Nat) : String :=
  if nanos == 0 then ""
  else if nanos % 1000000 == 0 then "." ++ padded 3 (nanos / 1000000)
  else if nanos % 1000 == 0 then "." ++ padded 6 (nanos / 1000)
  else "." ++ padded 9 nanos

def text (t : Instant) : String :=
  let (year, month, day) := dateOfDays (t.seconds / 86400)
  let second := (t.seconds % 86400).toNat
  let leap := t.nanos / 1000000000
  yearText year ++ "-" ++ padded 2 month ++ "-" ++ padded 2 day
    ++ "T" ++ padded 2 (second / 3600) ++ ":" ++ padded 2 (second / 60 % 60)
    ++ ":" ++ padded 2 (second % 60 + leap) ++ fractionText (t.nanos % 1000000000) ++ "Z"

/-! Reading. Blanks may stand before every number, before every separator inside the date and inside
the time, before the offset and at the end. -/

abbrev Reader (α : Type) := List Char → Option (α × List Char)

private def skipBlank (cs : List Char) : List Char :=
  cs.dropWhile Text.isBlank

private def number (width low high : Nat) : Reader Nat := fun cs =>
  let cs := skipBlank cs
  let digits := (cs.take width).takeWhile Text.isAsciiDigit
  let n := Text.digitsToNat digits
  if digits.isEmpty || n < low || high < n then none else some (n, cs.drop digits.length)

/-- A year: up to four digits, or a sign and any number of them. -/
private def year : Reader Int := fun cs =>
  let signed (sign : Int) (cs : List Char) : Option (Int × List Char) :=
    let digits := cs.takeWhile Text.isAsciiDigit
    if digits.isEmpty then none
    else some (sign * Text.digitsToNat digits, cs.drop digits.length)
  match skipBlank cs with
  | '-' :: cs => signed (-1) cs
  | '+' :: cs => signed 1 cs
  | cs => (number 4 0 9999 cs).map fun (n, rest) => ((n : Int), rest)

private def separator (c : Char) : Reader Unit := fun cs =>
  match skipBlank cs with
  | d :: rest => if d = c then some ((), rest) else none
  | [] => none

/-- Digits after a point, cut after the ninth. -/
private def fraction : Reader Nat
  | '.' :: cs =>
      let digits := cs.takeWhile Text.isAsciiDigit
      if digits.isEmpty then none
      else
        let kept := digits.take 9
        some (Text.digitsToNat kept * Decimal.tenTo (9 - kept.length), cs.drop digits.length)
  | cs => some (0, cs)

private def twoDigits : Reader Nat
  | a :: b :: rest =>
      if Text.isAsciiDigit a && Text.isAsciiDigit b then some (Text.digitsToNat [a, b], rest)
      else none
  | _ => none

private def numericOffset (sign : Int) : Reader Int := fun cs => do
  let (hours, cs) ← twoDigits cs
  let (minutes, cs) ← twoDigits (cs.dropWhile fun c => c = ':' || Text.isBlank c)
  if 59 < minutes then none
  else some (sign * (hours * 3600 + minutes * 60 : Nat), cs)

/-- Seconds that the local time is ahead of UTC. -/
private def offset : Reader Int
  | 'Z' :: rest | 'z' :: rest => some (0, rest)
  | '+' :: cs => numericOffset 1 cs
  | '-' :: cs | '\u2212' :: cs => numericOffset (-1) cs
  | a :: b :: c :: rest =>
      if [a, b, c].map Char.toLower = ['u', 't', 'c'] then some (0, rest) else none
  | _ => none

def yearInRange (year : Int) : Bool :=
  -262143 ≤ year && year ≤ 262142

def yearOf (seconds : Int) : Int :=
  (dateOfDays (seconds / 86400)).1

/-- Reads an instant. A sixtieth second is a leap second after the fifty-ninth. The year must be in
range both as it is written and in UTC. -/
def parse? (s : String) : Option Instant := do
  let (y, cs) ← year s.toList
  let (_, cs) ← separator '-' cs
  let (month, cs) ← number 2 1 12 cs
  let (_, cs) ← separator '-' cs
  let (day, cs) ← number 2 1 31 cs
  let cs ← match cs with
    | 't' :: cs | 'T' :: cs | ' ' :: cs => some cs
    | _ => none
  let (hour, cs) ← number 2 0 23 cs
  let (_, cs) ← separator ':' cs
  let (minute, cs) ← number 2 0 59 cs
  let (_, cs) ← separator ':' cs
  let (second, cs) ← number 2 0 60 cs
  let (nanos, cs) ← fraction cs
  let (ahead, cs) ← offset (skipBlank cs)
  let whole : Int := daysOfDate y month day * 86400 + hour * 3600 + minute * 60 + min second 59
  if (skipBlank cs).isEmpty && yearInRange y && yearInRange (yearOf (whole - ahead))
    && day ≤ daysInMonth y month && ahead.natAbs < 86400
  then some ⟨whole - ahead, if second = 60 then nanos + 1000000000 else nanos⟩
  else none

end Instant

end Scaffold
