import Scaffold.Text.Utf8

/-!
Base64 with the standard alphabet. Padding is required, and the bits of the last symbol that belong
to no byte must be zero.
-/

namespace Scaffold.Base64

open Text.Utf8 (Bytes)

inductive Fault where
  | symbol (byte : UInt8) (offset : Nat)
  | length (symbols : Nat)
  | lastSymbol (byte : UInt8) (offset : Nat)
  | padding
  deriving DecidableEq, Repr

def Fault.message : Fault → String
  | .symbol byte offset => s!"Invalid symbol {byte.toNat}, offset {offset}."
  | .length symbols => s!"Invalid input length: {symbols}"
  | .lastSymbol byte offset => s!"Invalid last symbol {byte.toNat}, offset {offset}."
  | .padding => "Invalid padding"

/-- The padding byte, an equals sign. -/
def pad : UInt8 := 61

/-- The six bits that a byte of the alphabet stands for. -/
def value? (b : UInt8) : Option Nat :=
  let n := b.toNat
  if 65 ≤ n ∧ n ≤ 90 then some (n - 65)
  else if 97 ≤ n ∧ n ≤ 122 then some (n - 97 + 26)
  else if 48 ≤ n ∧ n ≤ 57 then some (n - 48 + 52)
  else if n = 43 then some 62
  else if n = 47 then some 63
  else none

def values (offset : Nat) : Bytes → Except Fault (List Nat)
  | [] => .ok []
  | b :: bs =>
      match value? b with
      | some v => (v :: ·) <$> values (offset + 1) bs
      | none => .error (.symbol b offset)

/-- The values of the last quad and how many pads end it. `index` is the place within the quad, and
`firstPad` the offset of the first pad. A pad needs two symbols before it and no symbol after it. -/
def tailValues (offset index : Nat) (firstPad : Option Nat) (pads : Nat) :
    Bytes → Except Fault (List Nat × Nat)
  | [] => .ok ([], pads)
  | b :: bs =>
      if b = pad then
        if index < 2 then .error (.symbol b offset)
        else tailValues (offset + 1) (index + 1) (firstPad.or (some offset)) (pads + 1) bs
      else
        match firstPad, value? b with
        | some first, _ => .error (.symbol pad first)
        | none, none => .error (.symbol b offset)
        | none, some v => do
            let (vs, pads) ← tailValues (offset + 1) (index + 1) none pads bs
            return (v :: vs, pads)

/-- The bytes that a row of six-bit values spells; bits left over at its end are dropped. -/
def join : List Nat → Bytes
  | a :: b :: c :: d :: rest =>
      .ofNat (a * 4 + b / 16) :: .ofNat (b % 16 * 16 + c / 4) :: .ofNat (c % 4 * 64 + d) :: join rest
  | [a, b, c] => [.ofNat (a * 4 + b / 16), .ofNat (b % 16 * 16 + c / 4)]
  | [a, b] => [.ofNat (a * 4 + b / 16)]
  | _ => []

def spareBits : List Nat → Nat
  | [_, b] => b % 16
  | [_, _, c] => c % 4
  | _ => 0

def tailStart (length : Nat) : Nat :=
  (length - 1) / 4 * 4

/-- A lone byte after the last whole quad that is neither symbol nor pad. -/
def strayEnd? (bytes : Bytes) : Option Fault :=
  match bytes.getLast? with
  | some b =>
      if bytes.length % 4 = 1 ∧ b ≠ pad ∧ (value? b).isNone then
        some (.symbol b (bytes.length - 1))
      else none
  | none => none

def decode (bytes : Bytes) : Except Fault Bytes := do
  if let some fault := strayEnd? bytes then throw fault
  let start := tailStart bytes.length
  let body ← values 0 (bytes.take start)
  let tail := bytes.drop start
  let (last, pads) ← tailValues start 0 none 0 tail
  if !bytes.isEmpty && last.length < 2 then throw (.length (start + last.length))
  if (last.length + pads) % 4 ≠ 0 then throw .padding
  if spareBits last ≠ 0 then
    throw (.lastSymbol (tail.getD (last.length - 1) pad) (start + last.length - 1))
  return join body ++ join last

end Scaffold.Base64
