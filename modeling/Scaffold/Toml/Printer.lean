import Scaffold.Decimal.Layout
import Scaffold.Toml.Quoted
import Scaffold.Toml.Basic

/-!
Printing documents. Values of a table stand under its header; tables, and arrays that hold nothing
but tables, get headers of their own after them. Texts take the first kind of quotes in which they
need no escapes.
-/

namespace Scaffold.Toml

/-- Every digit positionally; a float without a fraction ends in `.0`. -/
def floatLayout : Decimal.Layout := ⟨none, "nan", "inf", "-inf"⟩

/-! Texts and keys. -/

private def upperHex (n : Nat) : Char :=
  (Nat.digitChar n).toUpper

/-- A control character that only an escape can stand for. -/
private def isControl (c : Char) : Bool :=
  !isLineChar c && c != '\n'

def escapeChar : Char → List Char
  | '\x08' => ['\\', 'b']
  | '\t' => ['\\', 't']
  | '\n' => ['\\', 'n']
  | '\x0c' => ['\\', 'f']
  | '\r' => ['\\', 'r']
  | '"' => ['\\', '"']
  | '\\' => ['\\', '\\']
  | c =>
      if isControl c then ['\\', 'u', '0', '0', upperHex (c.toNat / 16), upperHex (c.toNat % 16)]
      else [c]

/-- The characters of a basic text on several lines. Line breaks stand for themselves, and so do
quotes, unless it would be three in a row; `quotes` counts those just before. -/
def escapeBlock (quotes : Nat) : List Char → List Char
  | [] => []
  | c :: cs =>
      if c = '\n' then c :: escapeBlock 0 cs
      else if c = '"' then
        if quotes < 2 then c :: escapeBlock (quotes + 1) cs else escapeChar c ++ escapeBlock 0 cs
      else escapeChar c ++ escapeBlock 0 cs

def longestRun (c : Char) (run : Nat) : List Char → Nat
  | [] => run
  | d :: ds => if d = c then longestRun c (run + 1) ds else max run (longestRun c 0 ds)

/-- What a text holds that one kind of quotes or another cannot. -/
structure Traits where
  controls : Bool
  backslashes : Bool
  breaks : Bool
  quotes : Nat
  apostrophes : Nat

def traits (cs : List Char) : Traits where
  controls := cs.any isControl
  backslashes := cs.contains '\\'
  breaks := cs.contains '\n'
  quotes := longestRun '"' 0 cs
  apostrophes := longestRun '\'' 0 cs

private def enclose (quotes : List Char) (cs : List Char) : String :=
  String.ofList (quotes ++ cs ++ quotes)

private def basic (cs : List Char) : String :=
  enclose ['"'] (cs.flatMap escapeChar)

private def block (t : Traits) (cs : List Char) : List Char :=
  if t.breaks then '\n' :: cs else cs

private def basicBlock (t : Traits) (cs : List Char) : String :=
  enclose ['"', '"', '"'] (block t (escapeBlock 0 cs))

def textOf (s : String) : String :=
  let cs := s.toList
  let t := traits cs
  if !t.controls && !t.backslashes && !t.breaks && t.quotes = 0 then basic cs
  else if !t.controls && !t.breaks && t.apostrophes = 0 then enclose ['\''] cs
  else if !t.controls && !t.backslashes && t.quotes ≤ 2 then basicBlock t cs
  else if !t.controls && t.apostrophes ≤ 2 then enclose ['\'', '\'', '\''] (block t cs)
  else if t.breaks then basicBlock t cs
  else basic cs

def keyText (key : String) : String :=
  let cs := key.toList
  let t := traits cs
  if !cs.isEmpty && cs.all isKeyChar then key
  else if !t.controls && !t.backslashes && !t.breaks && t.quotes = 0 then basic cs
  else if !t.controls && !t.breaks && t.apostrophes = 0 then enclose ['\''] cs
  else basic cs

def pathText (path : List String) : String :=
  ".".intercalate (path.map keyText)

/-! Values. -/

/-- Items in brackets; from two on, each has a line of its own. -/
def arrayText : List String → String
  | [] => "[]"
  | [item] => "[" ++ item ++ "]"
  | items => "[\n" ++ String.join (items.map fun item => "    " ++ item ++ ",\n") ++ "]"

def inlineText (members : List String) : String :=
  if members.isEmpty then "\x7b\x7d" else "\x7b " ++ ", ".intercalate members ++ " \x7d"

mutual

def valueText : Toml → String
  | .string s => textOf s
  | .integer n => Int.repr n
  | .float x => floatLayout.text x
  | .boolean b => if b then "true" else "false"
  | .datetime d => d.text
  | .array items => arrayText (itemTexts items)
  | .table entries => inlineText (memberTexts entries)

def itemTexts : List Toml → List String
  | [] => []
  | item :: items => valueText item :: itemTexts items

def memberTexts : List (String × Toml) → List String
  | [] => []
  | (key, value) :: entries => (keyText key ++ " = " ++ valueText value) :: memberTexts entries

end

/-! Documents. -/

def isTables (items : List Toml) : Bool :=
  !items.isEmpty && items.all isTable

def hasHeader : Toml → Bool
  | .table _ => true
  | .array items => isTables items
  | _ => false

def bodyText (entries : List (String × Toml)) : String :=
  String.join ((entries.filter fun e => !hasHeader e.2).map fun e =>
    keyText e.1 ++ " = " ++ valueText e.2 ++ "\n")

/-- A header and the body under it. A table with nothing but tables in it needs none. -/
def tableBlock (path : List String) (entries : List (String × Toml)) : List String :=
  if !entries.isEmpty && entries.all fun e => hasHeader e.2 then []
  else ["[" ++ pathText path ++ "]\n" ++ bodyText entries]

def elementBlock (path : List String) (entries : List (String × Toml)) : String :=
  "[[" ++ pathText path ++ "]]\n" ++ bodyText entries

mutual

def blocks (path : List String) : Toml → List String
  | .table entries => tableBlock path entries ++ entryBlocks path entries
  | .array items => if isTables items then elementBlocks path items else []
  | _ => []

def entryBlocks (path : List String) : List (String × Toml) → List String
  | [] => []
  | (key, value) :: entries => blocks (path ++ [key]) value ++ entryBlocks path entries

def elementBlocks (path : List String) : List Toml → List String
  | [] => []
  | .table entries :: items =>
      elementBlock path entries :: (entryBlocks path entries ++ elementBlocks path items)
  | _ :: items => elementBlocks path items

end

/-- The text of a document. An empty line stands before each header. -/
def document (entries : List (String × Toml)) : String :=
  let body := bodyText entries
  "\n".intercalate ((if body.isEmpty then [] else [body]) ++ entryBlocks [] entries)

end Scaffold.Toml
