/-!
UTF-8: the bytes of a text, and the text of a row of bytes or the place where it goes wrong.
-/

namespace Scaffold.Text.Utf8

abbrev Bytes := List UInt8

def encode (s : String) : Bytes :=
  s.toUTF8.data.toList

/-- Where bytes stop being UTF-8: the offset of the bad sequence, and its length unless the bytes
end inside it. -/
structure Fault where
  offset : Nat
  length : Option Nat
  deriving DecidableEq, Repr

def Fault.message (fault : Fault) : String :=
  match fault.length with
  | some n => s!"invalid utf-8 sequence of {n} bytes from index {fault.offset}"
  | none => s!"incomplete utf-8 byte sequence from index {fault.offset}"

/-- A character whose first bytes have been read: where it started, how many bytes it has so far,
how many are owed, the range of the next one, and the value so far. -/
structure Pending where
  start : Nat
  seen : Nat
  owed : Nat
  low : Nat
  high : Nat
  value : Nat

/-- What the first byte of a character of several bytes announces. The range of the second byte
rules out overlong forms, surrogates and values past U+10FFFF. -/
def lead? (start : Nat) (b : Nat) : Option Pending :=
  if 0xc2 ≤ b ∧ b ≤ 0xdf then some ⟨start, 1, 1, 0x80, 0xbf, b - 0xc0⟩
  else if b = 0xe0 then some ⟨start, 1, 2, 0xa0, 0xbf, 0⟩
  else if b = 0xed then some ⟨start, 1, 2, 0x80, 0x9f, 0xd⟩
  else if 0xe1 ≤ b ∧ b ≤ 0xef then some ⟨start, 1, 2, 0x80, 0xbf, b - 0xe0⟩
  else if b = 0xf0 then some ⟨start, 1, 3, 0x90, 0xbf, 0⟩
  else if b = 0xf4 then some ⟨start, 1, 3, 0x80, 0x8f, 4⟩
  else if 0xf1 ≤ b ∧ b ≤ 0xf3 then some ⟨start, 1, 3, 0x80, 0xbf, b - 0xf0⟩
  else none

def decodeFrom (offset : Nat) : Option Pending → Bytes → Except Fault (List Char)
  | none, [] => .ok []
  | some p, [] => .error ⟨p.start, none⟩
  | none, b :: rest =>
      if b.toNat < 0x80 then (Char.ofNat b.toNat :: ·) <$> decodeFrom (offset + 1) none rest
      else
        match lead? offset b.toNat with
        | some p => decodeFrom (offset + 1) (some p) rest
        | none => .error ⟨offset, some 1⟩
  | some p, b :: rest =>
      if p.low ≤ b.toNat ∧ b.toNat ≤ p.high then
        let value := p.value * 64 + (b.toNat - 0x80)
        if p.owed ≤ 1 then (Char.ofNat value :: ·) <$> decodeFrom (offset + 1) none rest
        else
          decodeFrom (offset + 1) (some ⟨p.start, p.seen + 1, p.owed - 1, 0x80, 0xbf, value⟩) rest
      else .error ⟨p.start, some p.seen⟩

def decode (bytes : Bytes) : Except Fault String :=
  String.ofList <$> decodeFrom 0 none bytes

def decode? (bytes : Bytes) : Option String :=
  (decode bytes).toOption

end Scaffold.Text.Utf8
