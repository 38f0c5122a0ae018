import Scaffold.Toml.Draft
import Scaffold.Toml.Quoted
import Scaffold.Toml.Scalar

/-!
Reading documents: lines that open tables and lines that put a value under a key. Main entry:
`Toml.read?`.
-/

namespace Scaffold.Toml

/-- Arrays and inline tables deeper than this many levels are refused. -/
def nestingLimit : Nat := 80

/-- A dotted key of more parts than this is refused. -/
def keyLimit : Nat := 80

def skipFiller? (inComment : Bool) : List Char → Option (List Char)
  | [] => some []
  | c :: rest =>
      if c = '\n' then skipFiller? false rest
      else if c = '\r' then (if rest.head? = some '\n' then skipFiller? false rest else none)
      else if inComment then (if isLineChar c then skipFiller? true rest else none)
      else if isBlank c then skipFiller? false rest
      else if c = '#' then skipFiller? true rest
      else some (c :: rest)

/-- What follows the end of a line, which nothing but blanks and a comment may precede. -/
def endLine? (inComment : Bool) : List Char → Option (List Char)
  | [] => some []
  | '\n' :: rest => some rest
  | '\r' :: '\n' :: rest => some rest
  | c :: rest =>
      if inComment then (if isLineChar c then endLine? true rest else none)
      else if isBlank c then endLine? false rest
      else if c = '#' then endLine? true rest
      else none

def readKey? (cs : List Char) : Option (String × List Char) :=
  let bare := cs.takeWhile isKeyChar
  if bare.isEmpty then (readLineText? cs).map fun (text, rest) => (String.ofList text, rest)
  else some (String.ofList bare, cs.dropWhile isKeyChar)

/-- A dotted key of at most `parts` parts: the keys up to the last one, the last one, and what follows
them and blanks. -/
def readParts? : (parts : Nat) → List Char → Option (List String × String × List Char)
  | 0, _ => none
  | parts + 1, cs => do
      let (key, rest) ← readKey? (cs.dropWhile isBlank)
      match rest.dropWhile isBlank with
      | '.' :: rest =>
          let (path, last, rest) ← readParts? parts rest
          return (key :: path, last, rest)
      | rest => return ([], key, rest)

def readPath? (cs : List Char) : Option (List String × String × List Char) :=
  readParts? keyLimit cs

def endsScalar (c : Char) : Bool :=
  isBlank c || isLineBreak c || [',', ']', '[', '\x7b', '\x7d', '#', '=', '"', '\''].contains c

private def dateShape (token : List Char) : Bool :=
  token.length == 10 && (token.drop 4).head? == some '-' && (token.drop 7).head? == some '-'

def readToken? (cs : List Char) : Option (Toml × List Char) :=
  let token := cs.takeWhile fun c => !endsScalar c
  let rest := cs.dropWhile fun c => !endsScalar c
  match dateShape token, rest with
  | true, ' ' :: d :: more =>
      if Text.isAsciiDigit d then
        (readScalar? (token ++ ' ' :: (d :: more).takeWhile fun c => !endsScalar c)).map
          (·, (d :: more).dropWhile fun c => !endsScalar c)
      else (readScalar? token).map (·, rest)
  | _, _ => (readScalar? token).map (·, rest)

mutual

/-- Reads one value. `level` counts the arrays and inline tables around it. -/
def readValue? : (fuel level : Nat) → List Char → Option (Toml × List Char)
  | 0, _, _ => none
  | fuel + 1, level, cs =>
      match cs with
      | '[' :: rest =>
          if level < nestingLimit then readItems? fuel (level + 1) [] rest else none
      | '\x7b' :: rest =>
          if level < nestingLimit then readMembers? fuel (level + 1) [] rest else none
      | '"' :: _ | '\'' :: _ =>
          (readText? cs).map fun (text, rest) => (.string (String.ofList text), rest)
      | cs => readToken? cs

/-- Reads the items of an array up to its closing bracket; `items` are those before, the last one
first. -/
def readItems? : (fuel level : Nat) → List Toml → List Char → Option (Toml × List Char)
  | 0, _, _, _ => none
  | fuel + 1, level, items, cs =>
      match skipFiller? false cs with
      | none => none
      | some (']' :: rest) => some (.array items.reverse, rest)
      | some cs =>
          match readValue? fuel level cs with
          | none => none
          | some (item, rest) =>
              match skipFiller? false rest with
              | some (',' :: rest) => readItems? fuel level (item :: items) rest
              | some (']' :: rest) => some (.array (item :: items).reverse, rest)
              | _ => none

/-- Reads the members of an inline table up to its closing brace. Like the items of an array they may
go over several lines, have comments between their parts, and end in a comma. -/
def readMembers? : (fuel level : Nat) → Entries → List Char → Option (Toml × List Char)
  | 0, _, _, _ => none
  | fuel + 1, level, entries, cs =>
      match skipFiller? false cs with
      | none => none
      | some ('\x7d' :: rest) => some (.table (Draft.closeEntries entries), rest)
      | some cs =>
          match readMember? fuel level entries cs with
          | none => none
          | some (entries, rest) =>
              match skipFiller? false rest with
              | some (',' :: rest) => readMembers? fuel level entries rest
              | some ('\x7d' :: rest) => some (.table (Draft.closeEntries entries), rest)
              | _ => none

def readMember? : (fuel level : Nat) → Entries → List Char → Option (Entries × List Char)
  | 0, _, _, _ => none
  | fuel + 1, level, entries, cs => do
      let (path, key, rest) ← readPath? cs
      match ← skipFiller? false rest with
      | '=' :: rest =>
          let (value, rest) ← readValue? fuel level (← skipFiller? false rest)
          return (← entries.assign path key value, rest)
      | _ => none

end

/-- The table that lines go into, by its header, and all that was read so far. -/
structure Document where
  path : List String := []
  entries : Entries := []

def readLine? (d : Document) (cs : List Char) : Option (Document × List Char) :=
  match cs with
  | '[' :: '[' :: rest => do
      let (path, key, rest) ← readPath? rest
      match rest with
      | ']' :: ']' :: rest =>
          let entries ← d.entries.openElement path key
          return (⟨path ++ [key], entries⟩, ← endLine? false rest)
      | _ => none
  | '[' :: rest => do
      let (path, key, rest) ← readPath? rest
      match rest with
      | ']' :: rest =>
          let entries ← d.entries.openTable path key
          return (⟨path ++ [key], entries⟩, ← endLine? false rest)
      | _ => none
  | cs => do
      match ← readPath? cs with
      | (path, key, '=' :: rest) =>
          let (value, rest) ← readValue? (2 * rest.length + 2) 0 (rest.dropWhile isBlank)
          let entries ← d.entries.assignUnder d.path path key value
          return (⟨d.path, entries⟩, ← endLine? false rest)
      | _ => none

def readLines? : (fuel : Nat) → Document → List Char → Option Document
  | 0, _, _ => none
  | fuel + 1, d, cs =>
      match skipFiller? false cs with
      | none => none
      | some [] => some d
      | some cs => do
          let (d, rest) ← readLine? d cs
          readLines? fuel d rest

private def dropMark : List Char → List Char
  | '\ufeff' :: cs => cs
  | cs => cs

/-- The table that a document holds. A byte order mark in front does not count. -/
def read? (text : String) : Option (List (String × Toml)) :=
  let cs := dropMark text.toList
  (readLines? (cs.length + 1) {} cs).map fun d => Draft.closeEntries d.entries

end Scaffold.Toml
