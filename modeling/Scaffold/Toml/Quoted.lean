import Scaffold.Text.HexDigit

/-!
Characters of documents, and quoted texts: basic and literal ones, on one line or on several. Basic
texts have escapes, literal ones have none.
-/

namespace Scaffold.Toml

/-- What may stand for itself on a line of a text or a comment. -/
def isLineChar (c : Char) : Bool :=
  c == '\t' || (0x20 ≤ c.toNat && c != '\x7f')

def isBlank (c : Char) : Bool :=
  c == ' ' || c == '\t'

def isLineBreak (c : Char) : Bool :=
  c == '\n' || c == '\r'

def isKeyChar (c : Char) : Bool :=
  ('A' ≤ c && c ≤ 'Z') || ('a' ≤ c && c ≤ 'z') || ('0' ≤ c && c ≤ '9') || c == '_' || c == '-'

/-- A character read from a text, and what follows it. -/
abbrev Step := Char × List Char

private def scalar? (digits rest : List Char) : Option Step := do
  let n ← Text.hexNumber? digits
  if h : n.isValidChar then some (Char.ofNatAux n h, rest) else none

def readEscape? : List Char → Option Step
  | 'b' :: rest => some ('\x08', rest)
  | 't' :: rest => some ('\t', rest)
  | 'n' :: rest => some ('\n', rest)
  | 'f' :: rest => some ('\x0c', rest)
  | 'r' :: rest => some ('\r', rest)
  | 'e' :: rest => some ('\x1b', rest)
  | '"' :: rest => some ('"', rest)
  | '\\' :: rest => some ('\\', rest)
  | 'x' :: a :: b :: rest => scalar? [a, b] rest
  | 'u' :: a :: b :: c :: d :: rest => scalar? [a, b, c, d] rest
  | 'U' :: a :: b :: c :: d :: e :: f :: g :: h :: rest => scalar? [a, b, c, d, e, f, g, h] rest
  | _ => none

/-- A text and what follows it. -/
abbrev Quoted := List Char × List Char

private def push (c : Char) : Option Quoted → Option Quoted
  | some (cs, rest) => some (c :: cs, rest)
  | none => none

def readBasic? : (fuel : Nat) → List Char → Option Quoted
  | 0, _ | _, [] => none
  | _ + 1, '"' :: rest => some ([], rest)
  | fuel + 1, '\\' :: rest =>
      match readEscape? rest with
      | some (c, rest) => push c (readBasic? fuel rest)
      | none => none
  | fuel + 1, c :: rest => if isLineChar c then push c (readBasic? fuel rest) else none

def readLiteral? : List Char → Option Quoted
  | [] => none
  | c :: rest =>
      if c = '\'' then some ([], rest)
      else if isLineChar c then push c (readLiteral? rest)
      else none

/-- What follows three closing quotes. Up to two quotes more belong to the text. -/
def closing (quote : Char) : List Char → Quoted
  | c :: d :: rest =>
      if c = quote then (if d = quote then ([c, d], rest) else ([c], d :: rest))
      else ([], c :: d :: rest)
  | [c] => if c = quote then ([c], []) else ([], [c])
  | [] => ([], [])

private def startsBreak : List Char → Bool
  | '\n' :: _ | '\r' :: '\n' :: _ => true
  | _ => false

private def isBlockChar (c : Char) (rest : List Char) : Bool :=
  isLineChar c || c == '\n' || (c == '\r' && rest.head? == some '\n')

private def dropBlanks : List Char → List Char
  | '\r' :: '\n' :: rest => dropBlanks rest
  | c :: rest => if isBlank c || c == '\n' then dropBlanks rest else c :: rest
  | [] => []

/-- A basic text on several lines, after its opening quotes. A backslash at the end of a line drops
the break and all blanks and breaks after it. -/
def readBasicBlock? : (fuel : Nat) → List Char → Option Quoted
  | 0, _ | _, [] => none
  | _ + 1, '"' :: '"' :: '"' :: rest => some (closing '"' rest)
  | fuel + 1, '\\' :: rest =>
      if startsBreak (rest.dropWhile isBlank) then
        readBasicBlock? fuel (dropBlanks rest)
      else
        match readEscape? rest with
        | some (c, rest) => push c (readBasicBlock? fuel rest)
        | none => none
  | fuel + 1, c :: rest => if isBlockChar c rest then push c (readBasicBlock? fuel rest) else none

def readLiteralBlock? : List Char → Option Quoted
  | [] => none
  | '\'' :: '\'' :: '\'' :: rest => some (closing '\'' rest)
  | c :: rest => if isBlockChar c rest then push c (readLiteralBlock? rest) else none

/-- The text after opening quotes; a line break at once does not count. -/
def dropBreak : List Char → List Char
  | '\n' :: rest => rest
  | '\r' :: '\n' :: rest => rest
  | rest => rest

def readLineText? : List Char → Option Quoted
  | '"' :: rest => readBasic? (rest.length + 1) rest
  | '\'' :: rest => readLiteral? rest
  | _ => none

def readText? : List Char → Option Quoted
  | '"' :: '"' :: '"' :: rest => readBasicBlock? (rest.length + 1) (dropBreak rest)
  | '\'' :: '\'' :: '\'' :: rest => readLiteralBlock? (dropBreak rest)
  | cs => readLineText? cs

end Scaffold.Toml
