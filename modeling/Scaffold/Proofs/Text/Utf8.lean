import Mathlib.Algebra.Group.Nat.Defs
import Scaffold.Text.Utf8

/-!
UTF-8 reads back what it writes. After its first byte a character is awaited: the bytes that are owed
carry six bits each, and the range of the next one admits it.
-/

namespace Scaffold.Text.Utf8

/-- The last `n` bytes of a character with a value. -/
def trail (value : Nat) : Nat → Bytes
  | 0 => []
  | n + 1 => UInt8.ofNat (value / 64 ^ n % 64 + 0x80) :: trail value n

/-- So far all but the last `n + 1` bytes of a character with a value were read. -/
structure Pending.Awaits (p : Pending) (value n : Nat) : Prop where
  owed : p.owed = n + 1
  known : p.value = value / 64 ^ (n + 1)
  low : p.low ≤ value / 64 ^ n % 64 + 0x80
  high : value / 64 ^ n % 64 + 0x80 ≤ p.high

theorem toNat_trail_byte (value n : Nat) :
    (UInt8.ofNat (value / 64 ^ n % 64 + 0x80)).toNat = value / 64 ^ n % 64 + 0x80 := by
  have small : value / 64 ^ n % 64 + 0x80 < 256 := by omega
  exact UInt8.toNat_ofNat_of_lt' small

@[simp] theorem length_trail (value n : Nat) : (trail value n).length = n := by
  induction n with
  | zero => rfl
  | succ n ih => rw [trail, List.length_cons, ih]

/-- With the next byte, six more bits of the value are known. -/
theorem Pending.Awaits.next {p : Pending} {value n : Nat} (awaits : p.Awaits value n) :
    p.value * 64 + (value / 64 ^ n % 64 + 0x80 - 0x80) = value / 64 ^ n := by
  rw [awaits.known, pow_succ, ← Nat.div_div_eq_div_mul]
  omega

theorem decodeFrom_trail {p : Pending} {value n : Nat} (awaits : p.Awaits value n) (offset : Nat)
    (rest : Bytes) :
    decodeFrom offset (some p) (trail value (n + 1) ++ rest) =
      (Char.ofNat value :: ·) <$> decodeFrom (offset + (n + 1)) none rest := by
  induction n generalizing p offset with
  | zero =>
      have known := awaits.next
      rw [trail, trail, List.cons_append, List.nil_append, decodeFrom, toNat_trail_byte,
        if_pos ⟨awaits.low, awaits.high⟩, known, if_pos (Nat.le_of_eq awaits.owed), pow_zero,
        Nat.div_one]
  | succ n ih =>
      have more : ¬p.owed ≤ 1 := by
        rw [awaits.owed]
        omega
      have later : Pending.Awaits ⟨p.start, p.seen + 1, p.owed - 1, 0x80, 0xbf,
          value / 64 ^ (n + 1)⟩ value n :=
        ⟨by rw [awaits.owed]; rfl, rfl, by dsimp only; omega, by dsimp only; omega⟩
      have known := awaits.next
      rw [trail, List.cons_append, decodeFrom, toNat_trail_byte,
        if_pos ⟨awaits.low, awaits.high⟩, known, if_neg more, ih later, Nat.add_right_comm,
        Nat.add_assoc]

/-! What first bytes announce. -/

section Lead

variable {value : Nat} (start : Nat)

theorem lead?_two (low : 0x80 ≤ value) (high : value < 0x800) :
    ∃ p, lead? start (value / 64 + 0xc0) = some p ∧ p.Awaits value 0 := by
  unfold lead?
  rw [if_pos (by omega)]
  exact ⟨_, rfl, rfl, by dsimp only; omega, by dsimp only; omega, by dsimp only; omega⟩

/-- The ranges of the second byte leave out what fits into fewer bytes, and surrogates. -/
theorem lead?_three (low : 0x800 ≤ value) (high : value < 0x10000)
    (valid : value < 0xd800 ∨ 0xdfff < value) :
    ∃ p, lead? start (value / 4096 + 0xe0) = some p ∧ p.Awaits value 1 := by
  unfold lead?
  rw [if_neg (by omega)]
  by_cases least : value / 4096 = 0
  · rw [if_pos (by omega)]
    exact ⟨_, rfl, rfl, by dsimp only; omega, by dsimp only; omega, by dsimp only; omega⟩
  · rw [if_neg (by omega)]
    by_cases surrogates : value / 4096 = 0xd
    · rw [if_pos (by omega)]
      exact ⟨_, rfl, rfl, by dsimp only; omega, by dsimp only; omega, by dsimp only; omega⟩
    · rw [if_neg (by omega), if_pos (by omega)]
      exact ⟨_, rfl, rfl, by dsimp only; omega, by dsimp only; omega, by dsimp only; omega⟩

theorem lead?_four (low : 0x10000 ≤ value) (high : value < 0x110000) :
    ∃ p, lead? start (value / 262144 + 0xf0) = some p ∧ p.Awaits value 2 := by
  unfold lead?
  rw [if_neg (by omega), if_neg (by omega), if_neg (by omega), if_neg (by omega)]
  by_cases least : value / 262144 = 0
  · rw [if_pos (by omega)]
    exact ⟨_, rfl, rfl, by dsimp only; omega, by dsimp only; omega, by dsimp only; omega⟩
  · rw [if_neg (by omega)]
    by_cases greatest : value / 262144 = 4
    · rw [if_pos (by omega)]
      exact ⟨_, rfl, rfl, by dsimp only; omega, by dsimp only; omega, by dsimp only; omega⟩
    · rw [if_neg (by omega), if_pos (by omega)]
      exact ⟨_, rfl, rfl, by dsimp only; omega, by dsimp only; omega, by dsimp only; omega⟩

end Lead

/-- The first byte of a character beyond ASCII announces the bytes that follow it. -/
theorem exists_lead (c : Char) (beyond : 0x80 ≤ c.val.toNat) (start : Nat) :
    ∃ b n p, String.utf8EncodeChar c = UInt8.ofNat b :: trail c.val.toNat (n + 1) ∧ 0x80 ≤ b ∧
      b < 256 ∧ lead? start b = some p ∧ p.Awaits c.val.toNat n := by
  have valid : c.val.toNat.isValidChar := c.valid
  unfold Nat.isValidChar at valid
  unfold String.utf8EncodeChar
  generalize c.val.toNat = value at beyond valid
  simp only
  rw [if_neg (by omega)]
  by_cases two : value ≤ 0x7ff
  · obtain ⟨p, lead, awaits⟩ := lead?_two start beyond (by omega)
    rw [if_pos two, Nat.mod_eq_of_lt (by omega)]
    exact ⟨_, 0, p, by simp [trail], by omega, by omega, lead, awaits⟩
  rw [if_neg two]
  have long : 0x800 ≤ value := by omega
  by_cases three : value ≤ 0xffff
  · obtain ⟨p, lead, awaits⟩ := lead?_three start long (by omega) (by omega)
    rw [if_pos three, Nat.mod_eq_of_lt (by omega)]
    exact ⟨_, 1, p, by simp [trail], by omega, by omega, lead, awaits⟩
  · have longest : 0x10000 ≤ value := by omega
    obtain ⟨p, lead, awaits⟩ := lead?_four start longest (by omega)
    rw [if_neg three, Nat.mod_eq_of_lt (by omega)]
    exact ⟨_, 2, p, by simp [trail], by omega, by omega, lead, awaits⟩

theorem decodeFrom_char (c : Char) (offset : Nat) (rest : Bytes) :
    decodeFrom offset none (String.utf8EncodeChar c ++ rest) =
      (c :: ·) <$> decodeFrom (offset + (String.utf8EncodeChar c).length) none rest := by
  have same : Char.ofNat c.val.toNat = c := c.ofNat_toNat
  by_cases ascii : c.val.toNat < 0x80
  · have bytes : String.utf8EncodeChar c = [UInt8.ofNat c.val.toNat] := if_pos (by omega)
    have small : c.val.toNat < 256 := by omega
    rw [bytes, List.singleton_append, decodeFrom, UInt8.toNat_ofNat_of_lt' small, if_pos ascii,
      same]
    rfl
  · obtain ⟨b, n, p, bytes, high, small, lead, awaits⟩ := exists_lead c (by omega) offset
    rw [bytes, List.cons_append, decodeFrom, UInt8.toNat_ofNat_of_lt' small, if_neg (by omega), lead]
    simp only
    rw [decodeFrom_trail awaits, same, List.length_cons, length_trail, Nat.add_assoc,
      Nat.add_comm 1]

theorem decodeFrom_chars (cs : List Char) (offset : Nat) :
    decodeFrom offset none (cs.flatMap String.utf8EncodeChar) = .ok cs := by
  induction cs generalizing offset with
  | nil => rfl
  | cons c cs ih =>
      rw [List.flatMap_cons, decodeFrom_char, ih]
      rfl

theorem encode_eq (s : String) : encode s = s.toList.flatMap String.utf8EncodeChar := by
  unfold encode
  rw [String.toUTF8_eq_toByteArray, ← String.utf8Encode_toList]
  simp [List.utf8Encode]

theorem decode?_encode (s : String) : decode? (encode s) = some s := by
  unfold decode? decode
  rw [encode_eq, decodeFrom_chars]
  exact congrArg some String.ofList_toList

end Scaffold.Text.Utf8
