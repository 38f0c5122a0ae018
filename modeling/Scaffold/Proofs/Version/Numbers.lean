import Mathlib.Data.List.TakeWhile
import Scaffold.Version

/-!
The numbers of versions. A row of digits is read as the number that it writes if all digits are ASCII
ones and the number has at most 64 bits, and else refused for what is met first.
-/

namespace Scaffold.Version

open Text (isAsciiDigit isDecimalDigit digitsToNat)

/-- Whether a row of digits writes a number of at most 64 bits in ASCII digits. -/
def Fits (digits : List Char) : Prop :=
  digits.all isAsciiDigit ∧ digitsToNat digits < UInt64.size

instance : DecidablePred Fits :=
  fun _ => inferInstanceAs (Decidable (_ ∧ _))

/-- What is met first in a row of digits that does not fit: a foreign digit, unless the number before
it is too large already. -/
def fault (digits : List Char) : VersionError :=
  if digitsToNat (digits.takeWhile isAsciiDigit) < UInt64.size then .foreignDigit else .overflow

theorem le_ofDigitChars (digits : List Char) (value : Nat) :
    value ≤ Nat.ofDigitChars 10 digits value := by
  induction digits generalizing value with
  | nil => simp
  | cons c digits ih =>
      have later := ih (10 * value + (c.toNat - '0'.toNat))
      rw [Nat.ofDigitChars_cons]
      omega

/-- The reading goes on from any number of 64 bits. -/
theorem number_eq {value : Nat} (small : value < UInt64.size) (digits : List Char) :
    number value digits =
      if digits.all isAsciiDigit ∧ Nat.ofDigitChars 10 digits value < UInt64.size then
        .ok (Nat.ofDigitChars 10 digits value)
      else .error
        (if Nat.ofDigitChars 10 (digits.takeWhile isAsciiDigit) value < UInt64.size then .foreignDigit
        else .overflow) := by
  induction digits generalizing value with
  | nil =>
      rw [number, List.takeWhile_nil, Nat.ofDigitChars_nil, if_pos ⟨List.all_nil, small⟩]
  | cons c digits ih =>
      rw [number]
      by_cases ascii : isAsciiDigit c
      · rw [if_pos ascii, List.takeWhile_cons_of_pos ascii, Nat.ofDigitChars_cons,
          Nat.ofDigitChars_cons]
        by_cases fits : 10 * value + (c.toNat - '0'.toNat) < UInt64.size
        · rw [if_pos fits, ih fits, List.all_cons, ascii, Bool.true_and]
        · -- What is too large here stays so, up to the end as well as up to a foreign digit.
          have whole := le_ofDigitChars digits (10 * value + (c.toNat - '0'.toNat))
          have front := le_ofDigitChars (digits.takeWhile isAsciiDigit)
            (10 * value + (c.toNat - '0'.toNat))
          rw [if_neg fits, if_neg (by omega), if_neg (by omega)]
      · have foreign : ¬(c :: digits).all isAsciiDigit := by simp [ascii]
        rw [if_neg ascii, if_neg fun fits => foreign fits.1, List.takeWhile_cons_of_neg ascii,
          Nat.ofDigitChars_nil, if_pos small]

theorem number_zero (digits : List Char) :
    number 0 digits =
      if Fits digits then .ok (digitsToNat digits) else .error (fault digits) :=
  number_eq (by decide) digits

/-! Numbers as they are written. -/

theorem isAsciiDigit_of_isDigit {c : Char} (digit : c.isDigit) : isAsciiDigit c := by
  simpa [isAsciiDigit, Char.isDigit, Char.le_def] using digit

theorem isDecimalDigit_of_isAsciiDigit {c : Char} (ascii : isAsciiDigit c) : isDecimalDigit c := by
  have bounds : 0x30 ≤ c.toNat ∧ c.toNat ≤ 0x39 := by
    simpa [isAsciiDigit, Char.le_def, UInt32.le_iff_toNat_le] using ascii
  apply List.any_eq_true.2
  refine ⟨0x30, List.mem_cons_self, ?_⟩
  simp only [Bool.and_eq_true, decide_eq_true_eq]
  omega

theorem isAsciiDigit_of_mem_toDigits {n : Nat} : ∀ c ∈ Nat.toDigits 10 n, isAsciiDigit c :=
  fun _ member => isAsciiDigit_of_isDigit (Nat.isDigit_of_mem_toDigits (by decide) (by decide) member)

theorem isDecimalDigit_of_mem_toDigits {n : Nat} : ∀ c ∈ Nat.toDigits 10 n, isDecimalDigit c :=
  fun c member => isDecimalDigit_of_isAsciiDigit (isAsciiDigit_of_mem_toDigits c member)

theorem digitsToNat_toDigits (n : Nat) : digitsToNat (Nat.toDigits 10 n) = n :=
  Nat.ofDigitChars_ten_toDigits

theorem fits_toDigits {n : Nat} (small : n < UInt64.size) : Fits (Nat.toDigits 10 n) :=
  ⟨List.all_eq_true.2 isAsciiDigit_of_mem_toDigits, by rwa [digitsToNat_toDigits]⟩

end Scaffold.Version
