import Scaffold.Json.Number
import Scaffold.Text.HexDigit

/-!
Reading JSON texts. Main entry: `Json.read?`, which takes a whole text to its tree.
-/

namespace Scaffold.Json

/-- Objects and arrays deeper than this many levels cannot be read. -/
def nestingLimit : Nat := 127

def isSpace (c : Char) : Bool :=
  c = ' ' || c = '\n' || c = '\t' || c = '\r'

inductive Piece where
  | char (c : Char)
  | half (unit : Nat)

private def codeUnit? (a b c d : Char) : Option Nat :=
  Text.hexNumber? [a, b, c, d]

private def isHalf (unit : Nat) : Bool :=
  0xd800 ≤ unit && unit ≤ 0xdfff

private def shortEscape? : Char → Option Char
  | '"' => some '"'
  | '\\' => some '\\'
  | '/' => some '/'
  | 'b' => some '\x08'
  | 'f' => some '\x0c'
  | 'n' => some '\n'
  | 'r' => some '\r'
  | 't' => some '\t'
  | _ => none

/-- The pieces of a string literal after its opening quote, and what follows its closing one. -/
def readPieces? (pieces : List Piece) : List Char → Option (List Piece × List Char)
  | [] => none
  | '"' :: rest => some (pieces.reverse, rest)
  | '\\' :: 'u' :: a :: b :: c :: d :: rest => do
      let unit ← codeUnit? a b c d
      readPieces? ((if isHalf unit then .half unit else .char (Char.ofNat unit)) :: pieces) rest
  | '\\' :: e :: rest => do
      let c ← shortEscape? e
      readPieces? (.char c :: pieces) rest
  | c :: rest => if c.toNat < 0x20 then none else readPieces? (.char c :: pieces) rest

def joinPieces? : List Piece → Option (List Char)
  | [] => some []
  | .char c :: rest => (joinPieces? rest).map (c :: ·)
  | .half high :: .half low :: rest =>
      if high < 0xdc00 && 0xdc00 ≤ low then
        (joinPieces? rest).map (Char.ofNat (0x10000 + (high - 0xd800) * 0x400 + (low - 0xdc00)) :: ·)
      else none
  | .half _ :: _ => none

/-- A string literal after its opening quote: its text, unless a surrogate stands alone in it. -/
def readString? (cs : List Char) : Option (Option String × List Char) := do
  let (pieces, rest) ← readPieces? [] cs
  return ((joinPieces? pieces).map String.ofList, rest)

private def stripPrefix? : List Char → List Char → Option (List Char)
  | [], cs => some cs
  | p :: ps, c :: cs => if p = c then stripPrefix? ps cs else none
  | _ :: _, [] => none

mutual

/-- Reads one value. `level` counts the arrays and objects around it. -/
def readValue? : (fuel level : Nat) → List Char → Option (Json × List Char)
  | 0, _, _ => none
  | fuel + 1, level, cs =>
      match cs.dropWhile isSpace with
      | '"' :: rest =>
          (readString? rest).map fun (text, rest) => (text.elim .unreadable .string, rest)
      | '[' :: rest =>
          match rest.dropWhile isSpace with
          | ']' :: rest => some (nest level (.array []), rest)
          | rest =>
              (readItems? fuel (level + 1) [] rest).map fun (items, rest) =>
                (nest level (.array items), rest)
      | '\x7b' :: rest =>
          match rest.dropWhile isSpace with
          | '\x7d' :: rest => some (nest level (.object []), rest)
          | rest =>
              (readMembers? fuel (level + 1) (some []) rest).map fun (members, rest) =>
                (nest level (members.elim .unreadable .object), rest)
      | 'n' :: rest => (stripPrefix? ['u', 'l', 'l'] rest).map (.null, ·)
      | 't' :: rest => (stripPrefix? ['r', 'u', 'e'] rest).map (.bool true, ·)
      | 'f' :: rest => (stripPrefix? ['a', 'l', 's', 'e'] rest).map (.bool false, ·)
      | rest => readNumber? rest
where
  nest (level : Nat) (j : Json) : Json := if level < nestingLimit then j else .unreadable

def readItems? : (fuel level : Nat) → List Json → List Char → Option (List Json × List Char)
  | 0, _, _, _ => none
  | fuel + 1, level, items, cs =>
      match readValue? fuel level cs with
      | none => none
      | some (item, rest) =>
          match rest.dropWhile isSpace with
          | ',' :: rest => readItems? fuel level (item :: items) rest
          | ']' :: rest => some ((item :: items).reverse, rest)
          | _ => none

/-- Reads the members of an object up to its closing brace; no members if one of the keys cannot be
read. -/
def readMembers? : (fuel level : Nat) → Option (List (String × Json)) → List Char →
    Option (Option (List (String × Json)) × List Char)
  | 0, _, _, _ => none
  | fuel + 1, level, members, cs =>
      match cs.dropWhile isSpace with
      | '"' :: rest =>
          match readString? rest with
          | none => none
          | some (key, rest) =>
              match rest.dropWhile isSpace with
              | ':' :: rest =>
                  match readValue? fuel level rest with
                  | none => none
                  | some (value, rest) =>
                      let members := members.bind fun ms => key.map fun k => (k, value) :: ms
                      match rest.dropWhile isSpace with
                      | ',' :: rest => readMembers? fuel level members rest
                      | '\x7d' :: rest => some (members.map List.reverse, rest)
                      | _ => none
              | _ => none
      | _ => none

end

def read? (text : String) : Option Json :=
  let cs := text.toList
  match readValue? (2 * cs.length + 2) 0 cs with
  | some (j, rest) => if rest.all isSpace then some j else none
  | none => none

end Scaffold.Json
