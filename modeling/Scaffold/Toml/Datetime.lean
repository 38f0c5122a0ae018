import Scaffold.Decimal.Power
import Scaffold.Text.DecimalDigit

/-!
Dates and times as they stand in documents: with or without a date, a time and an offset.
-/

namespace Scaffold.Toml

structure Date where
  year : Nat
  month : Nat
  day : Nat
  deriving DecidableEq, Repr

structure Time where
  hour : Nat
  minute : Nat
  second : Nat
  nanos : Nat
  deriving DecidableEq, Repr

/-- The distance from UTC: the letter `Z`, or minutes. -/
inductive Offset where
  | zulu
  | minutes (minutes : Int)
  deriving DecidableEq, Repr

inductive Datetime where
  | date (date : Date)
  | time (time : Time)
  | moment (date : Date) (time : Time) (offset : Option Offset)
  deriving DecidableEq, Repr

/-! Writing. -/

private def twoDigits (n : Nat) : String :=
  if n < 10 then "0" ++ Nat.repr n else Nat.repr n

private def padLeft (width : Nat) (s : String) : String :=
  String.ofList (List.replicate (width - s.length) '0') ++ s

def Date.text (d : Date) : String :=
  padLeft 4 (Nat.repr d.year) ++ "-" ++ twoDigits d.month ++ "-" ++ twoDigits d.day

private def fractionText (nanos : Nat) : String :=
  if nanos = 0 then ""
  else
    let digits := (padLeft 9 (Nat.repr nanos)).toList
    "." ++ String.ofList (digits.reverse.dropWhile (· == '0')).reverse

def Time.text (t : Time) : String :=
  twoDigits t.hour ++ ":" ++ twoDigits t.minute ++ ":" ++ twoDigits t.second ++ fractionText t.nanos

def Offset.text : Offset → String
  | .zulu => "Z"
  | .minutes m =>
      (if m < 0 then "-" else "+") ++ twoDigits (m.natAbs / 60) ++ ":" ++ twoDigits (m.natAbs % 60)

def Datetime.text : Datetime → String
  | .date d => d.text
  | .time t => t.text
  | .moment d t offset => d.text ++ "T" ++ t.text ++ offset.elim "" Offset.text

/-! Reading. -/

private def number? (digits : List Char) (low high : Nat) : Option Nat :=
  let n := Text.digitsToNat digits
  if digits.all Text.isAsciiDigit && low ≤ n && n ≤ high then some n else none

def daysIn (year month : Nat) : Nat :=
  if month = 2 then (if year % 4 = 0 ∧ (year % 100 ≠ 0 ∨ year % 400 = 0) then 29 else 28)
  else if [4, 6, 9, 11].contains month then 30
  else 31

private def readDate? : List Char → Option (Date × List Char)
  | y₁ :: y₂ :: y₃ :: y₄ :: '-' :: m₁ :: m₂ :: '-' :: d₁ :: d₂ :: rest => do
      let year ← number? [y₁, y₂, y₃, y₄] 0 9999
      let month ← number? [m₁, m₂] 1 12
      let day ← number? [d₁, d₂] 1 (daysIn year month)
      return (⟨year, month, day⟩, rest)
  | _ => none

/-- Nanoseconds of the digits after the point; those after the ninth do not count. -/
private def nanosOf (digits : List Char) : Nat :=
  Text.digitsToNat (digits.take 9) * Decimal.tenTo (9 - digits.length)

private def readFraction? : List Char → Option (Nat × List Char)
  | '.' :: rest =>
      let digits := rest.takeWhile Text.isAsciiDigit
      if digits.isEmpty then none else some (nanosOf digits, rest.dropWhile Text.isAsciiDigit)
  | rest => some (0, rest)

private def readSeconds? : List Char → Option (Nat × Nat × List Char)
  | ':' :: s₁ :: s₂ :: rest => do
      let second ← number? [s₁, s₂] 0 60
      let (nanos, rest) ← readFraction? rest
      return (second, nanos, rest)
  | ':' :: _ => none
  | rest => some (0, 0, rest)

private def readTime? : List Char → Option (Time × List Char)
  | h₁ :: h₂ :: ':' :: m₁ :: m₂ :: rest => do
      let hour ← number? [h₁, h₂] 0 23
      let minute ← number? [m₁, m₂] 0 59
      let (second, nanos, rest) ← readSeconds? rest
      return (⟨hour, minute, second, nanos⟩, rest)
  | _ => none

private def offset? : List Char → Option (Option Offset)
  | [] => some none
  | ['Z'] | ['z'] => some (some .zulu)
  | [sign, h₁, h₂, ':', m₁, m₂] => do
      let hours ← number? [h₁, h₂] 0 23
      let minutes ← number? [m₁, m₂] 0 59
      let total : Int := hours * 60 + minutes
      if sign = '+' then return some (.minutes total)
      else if sign = '-' then return some (.minutes (-total))
      else none
  | _ => none

private def isDelimiter (c : Char) : Bool :=
  c == 'T' || c == 't' || c == ' '

/-- Reads a text that is a date, a time, or both with an offset or without one. A time may go without
seconds. -/
def Datetime.read? (cs : List Char) : Option Datetime :=
  match readTime? cs with
  | some (t, []) => some (.time t)
  | some _ => none
  | none => do
      match ← readDate? cs with
      | (d, []) => return .date d
      | (d, c :: rest) =>
          if isDelimiter c then
            let (t, rest) ← readTime? rest
            return .moment d t (← offset? rest)
          else none

end Scaffold.Toml
