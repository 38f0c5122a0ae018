import Scaffold.Text.Pattern.Atom

/-!
Classes of characters in brackets, which hold characters, ranges, sets and classes and may be
combined by operators: `[a-z_]`, `[^\s\d]`, `[\w--[_0-9]]`.
-/

namespace Scaffold.Text.Pattern

def asciiClassNames : List String :=
  ["alnum", "alpha", "ascii", "blank", "cntrl", "digit", "graph", "lower", "print", "punct",
    "space", "upper", "word", "xdigit"]

/-- A class that is named between colons, after its opening bracket: whether it is negated, and what
follows it. -/
def asciiClass? (cs : List Char) : Option (Bool × List Char) :=
  match cs with
  | ':' :: rest =>
      let negated := rest.head? == some '^'
      let rest := if negated then rest.drop 1 else rest
      match rest.dropWhile (· != ':') with
      | ':' :: ']' :: after =>
          if asciiClassNames.contains (String.ofList (rest.takeWhile (· != ':'))) then
            some (negated, after)
          else none
      | _ => none
  | _ => none

def classAtom? (mode : Mode) : List Char → Option (Atom × List Char)
  | [] => none
  | '\\' :: rest => escape? mode rest
  | c :: rest => some (.char c, rest)

def Atom.isItem (mode : Mode) : Atom → Bool
  | .char c => mode.unicode || c.toNat < 0x80
  | .set => true
  | .place => false

/-- The character that decides whether a hyphen stands for itself. Where blanks do not count, a number
sign is passed over together with the blanks around it, but not a comment as a whole. -/
def afterHyphen? (mode : Mode) (cs : List Char) : Option Char :=
  if mode.verbose then
    let next := match cs.dropWhile isBlank with
      | '#' :: rest => rest.dropWhile isBlank
      | rest => rest
    next.head? <|> cs.head?
  else cs.head?

/-- Reads an item: an atom, or a range of characters from a lower one to a higher one. Before the end
of the class and before another hyphen, a hyphen makes no range. -/
def classItem? (mode : Mode) (cs : List Char) : Option (List Char) := do
  let (first, rest) ← classAtom? mode cs
  let single := if first.isItem mode then some rest else none
  match mode.skip rest with
  | [] => none
  | '-' :: rest =>
      match afterHyphen? mode rest with
      | some ']' | some '-' => single
      | _ => do
          let (last, rest) ← classAtom? mode (mode.skip rest)
          match first, last with
          | .char low, .char high =>
              if low ≤ high && first.isItem mode && last.isItem mode then some rest else none
          | _, _ => none
  | _ => single

/-- How high the inside of a class reaches so far: the height of what stands before the last
operator, and the heights of the items after it. -/
structure ClassHeight where
  before : Option Nat := none
  items : List Nat := []
  deriving DecidableEq, Repr

namespace ClassHeight

def push (h : ClassHeight) (item : Nat) : ClassHeight :=
  { h with items := item :: h.items }

/-- The height of all that stands so far. Items side by side make a layer, and so does an
operator. -/
def total (h : ClassHeight) : Nat :=
  let items := match h.items with
    | [] => 0
    | [item] => item
    | items => items.foldl max 0 + 1
  match h.before with
  | none => items
  | some before => max before items + 1

def operator (h : ClassHeight) : ClassHeight :=
  { before := some h.total }

end ClassHeight

mutual

def readClass? : (fuel : Nat) → Mode → ClassHeight → List Char → Option (Nat × List Char)
  | 0, _, _, _ => none
  | fuel + 1, mode, height, cs =>
      match mode.skip cs with
      | [] => none
      | ']' :: rest => some (height.total, rest)
      | '&' :: '&' :: rest => readClass? fuel mode height.operator rest
      | '-' :: '-' :: rest => readClass? fuel mode height.operator rest
      | '~' :: '~' :: rest => readClass? fuel mode height.operator rest
      | '[' :: rest =>
          match asciiClass? rest with
          | some (negated, rest) =>
              if negated && !mode.unicode then none
              else readClass? fuel mode (height.push 0) rest
          | none =>
              match openClass? fuel mode rest with
              | some (inner, rest) => readClass? fuel mode (height.push inner) rest
              | none => none
      | cs =>
          match classItem? mode cs with
          | some rest => readClass? fuel mode (height.push 0) rest
          | none => none

/-- Reads a class after its opening bracket, which a circumflex may follow to negate it; gives its
height. A negated class leaves ASCII, so that it needs Unicode. -/
def openClass? : (fuel : Nat) → Mode → List Char → Option (Nat × List Char)
  | 0, _, _ => none
  | fuel + 1, mode, cs =>
      let opened := match mode.skip cs with
        | '^' :: rest => if mode.unicode then leadingItems? fuel mode {} (mode.skip rest) else none
        | rest => leadingItems? fuel mode {} rest
      opened.map fun (height, rest) => (height + 1, rest)

/-- Hyphens at the start of a class stand for themselves, and so does a closing bracket that is the
first of all. -/
def leadingItems? : (fuel : Nat) → Mode → ClassHeight → List Char → Option (Nat × List Char)
  | 0, _, _, _ => none
  | fuel + 1, mode, height, cs =>
      match cs with
      | '-' :: rest => leadingItems? fuel mode (height.push 0) (mode.skip rest)
      | ']' :: rest =>
          if height.items.isEmpty then readClass? fuel mode (height.push 0) rest
          else readClass? fuel mode height cs
      | cs => readClass? fuel mode height cs

end

end Scaffold.Text.Pattern
