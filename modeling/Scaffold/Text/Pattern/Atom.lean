import Scaffold.Text.HexDigit
import Scaffold.Text.Pattern.Mode

/-!
Atoms of a pattern that a backslash starts.
-/

namespace Scaffold.Text.Pattern

/-- The least part of a pattern: a character that stands for itself, a set of characters, or a place
between characters. -/
inductive Atom where
  | char (c : Char)
  | set
  | place
  deriving DecidableEq, Repr

def categoryLetters : List Char :=
  ['C', 'L', 'M', 'N', 'P', 'S', 'Z', 'c', 'l', 'm', 'n', 'p', 's', 'z']

def codePoint? (mode : Mode) (digits value : Nat) (cs : List Char) : Option (Nat × List Char) :=
  match digits with
  | 0 => some (value, cs)
  | digits + 1 =>
      match mode.skip cs with
      | [] => none
      | c :: rest => do codePoint? mode digits (value * 16 + (← hexValue? c)) rest

/-- A character written as its number. Without Unicode, two digits name a byte, which has to be an
ASCII one. -/
def numbered? (mode : Mode) (digits : Nat) (cs : List Char) : Option (Atom × List Char) := do
  let (value, rest) ← codePoint? mode digits 0 cs
  if value.isValidChar && (mode.unicode || digits != 2 || value < 0x80) then
    some (.char (Char.ofNat value), rest)
  else none

/-- Reads an atom after its backslash. Sets that leave ASCII need Unicode. Edges of words are found
among ASCII characters only, so that they need it switched off. -/
def escape? (mode : Mode) : List Char → Option (Atom × List Char)
  | [] => none
  | c :: rest =>
      let char (value : Char) : Option (Atom × List Char) := some (.char value, rest)
      match c with
      | 'x' => numbered? mode 2 rest
      | 'u' => numbered? mode 4 rest
      | 'U' => numbered? mode 8 rest
      | 'p' | 'P' =>
          match mode.skip rest with
          | c :: rest =>
              if mode.unicode && categoryLetters.contains c then some (.set, rest) else none
          | [] => none
      | 'd' | 's' | 'w' => some (.set, rest)
      | 'D' | 'S' | 'W' => if mode.unicode then some (.set, rest) else none
      | 'A' | 'z' => some (.place, rest)
      | 'b' | 'B' | '<' | '>' => if mode.unicode then none else some (.place, rest)
      | 'a' => char '\x07'
      | 'f' => char '\x0c'
      | 't' => char '\t'
      | 'n' => char '\n'
      | 'r' => char '\r'
      | 'v' => char '\x0b'
      | c => if c.toNat < 0x80 && !c.isAlphanum then char c else none

end Scaffold.Text.Pattern
