import Scaffold.Text.Alphanumeric
import Scaffold.Text.Pattern.CharClass

/-!
Which texts are patterns. Main entry: `isPattern`.

A brace opens a count, a name or a number that another has to close. The patterns here are parts of
texts that end at a closing brace, so that an opening brace is never followed by a closing one and
makes no pattern.
-/

namespace Scaffold.Text.Pattern

/-- Classes, groups, branches and repetitions may stand in one another this many deep. -/
def nestingLimit : Nat := 250

/-- What an opening parenthesis starts: a group with settings of its own or without, a group with a
name, or settings for the rest of the group around it. -/
inductive Opening where
  | group (mode : Mode)
  | named (name : List Char)
  | settings (mode : Mode)
  deriving DecidableEq, Repr

/-- Whether a group may have a name: a letter or an underscore, and then letters, numbers,
underscores, points and brackets. -/
def isGroupName : List Char → Bool
  | [] => false
  | c :: cs =>
      (c == '_' || isAlphabetic c) && cs.all fun c => isAlphanumeric c || "_.[]".toList.contains c

private def name? (cs : List Char) : Option (Opening × List Char) :=
  let name := cs.takeWhile (· != '>')
  match cs.dropWhile (· != '>') with
  | _ :: rest => if isGroupName name then some (.named name, rest) else none
  | [] => none

/-- Reads what follows an opening parenthesis. Settings alone may not be empty. -/
def opening? (mode : Mode) (cs : List Char) : Option (Opening × List Char) :=
  match mode.skip cs with
  | '?' :: 'P' :: '<' :: rest => name? rest
  | '?' :: '<' :: rest => name? rest
  | '?' :: rest =>
      let settings := rest.takeWhile fun c => c != ':' && c != ')'
      match rest.dropWhile fun c => c != ':' && c != ')' with
      | ':' :: rest => (mode.set? settings).map (.group ·, rest)
      | _ :: rest =>
          if settings.isEmpty then none else (mode.set? settings).map (.settings ·, rest)
      | [] => none
  | rest => some (.group mode, rest)

/-- What stands next in a pattern. A bracket opens a class, and an atom is all that matches something
by itself. -/
inductive Token where
  | bar
  | opened (opening : Opening)
  | closed
  | bracket
  | repetition
  | atom
  deriving DecidableEq, Repr

/-- Reads a token. A repetition takes along the question mark that makes it reluctant. The point
leaves ASCII, so that it needs Unicode. -/
def token? (mode : Mode) (c : Char) (rest : List Char) : Option (Token × List Char) :=
  match c with
  | '|' => some (.bar, rest)
  | '(' => (opening? mode rest).map fun (opening, rest) => (.opened opening, rest)
  | ')' => some (.closed, rest)
  | '[' => some (.bracket, rest)
  | '*' | '+' | '?' => some (.repetition, if rest.head? == some '?' then rest.drop 1 else rest)
  | '\x7b' => none
  | '.' => if mode.unicode then some (.atom, rest) else none
  | '\\' => (escape? mode rest).map fun (_, rest) => (.atom, rest)
  | _ => some (.atom, rest)

/-- Parts of a branch: settings, or what matches something, which has a height. -/
inductive Part where
  | settings
  | piece (height : Nat)
  deriving DecidableEq, Repr

def Part.height : Part → Nat
  | .settings => 0
  | .piece height => height

/-- What has been read of a group: the names that are taken, the heights of the branches that have
ended, and the parts of the branch at hand, the last one first. -/
structure Inside where
  names : List (List Char) := []
  branches : List Nat := []
  parts : List Part := []

namespace Inside

def push (s : Inside) (part : Part) : Inside :=
  { s with parts := part :: s.parts }

/-- The height of the branch at hand. Several parts make a layer. -/
def branchHeight (s : Inside) : Nat :=
  match s.parts with
  | [] => 0
  | [part] => part.height
  | parts => (parts.map Part.height).foldl max 0 + 1

def nextBranch (s : Inside) : Inside :=
  { s with branches := s.branchHeight :: s.branches, parts := [] }

def repeated? (s : Inside) : Option Inside :=
  match s.parts with
  | .piece height :: parts => some { s with parts := .piece (height + 1) :: parts }
  | _ => none

/-- The height of the whole. Several branches make a layer. -/
def height (s : Inside) : Nat :=
  if s.branches.isEmpty then s.branchHeight
  else (s.branchHeight :: s.branches).foldl max 0 + 1

/-- Takes a name for a group; no two groups have the same one. -/
def take? (s : Inside) (name : List Char) : Option Inside :=
  if s.names.contains name then none else some { s with names := name :: s.names }

end Inside

/-- Reads branches up to the end of the text or, in a group, up to its closing parenthesis. -/
def readInside? : (fuel : Nat) → (grouped : Bool) → Mode → Inside → List Char →
    Option (Inside × List Char)
  | 0, _, _, _, _ => none
  | fuel + 1, grouped, mode, s, cs =>
      let group (inner : Mode) (s : Inside) (cs : List Char) := do
        let (t, rest) ← readInside? fuel true inner { names := s.names } cs
        readInside? fuel grouped mode
          { s with names := t.names, parts := .piece (t.height + 1) :: s.parts } rest
      match mode.skip cs with
      | [] => if grouped then none else some (s, [])
      | c :: rest => do
          let (token, rest) ← token? mode c rest
          match token with
          | .closed => if grouped then some (s, rest) else none
          | .bar => readInside? fuel grouped mode s.nextBranch rest
          | .repetition => readInside? fuel grouped mode (← s.repeated?) rest
          | .atom => readInside? fuel grouped mode (s.push (.piece 0)) rest
          | .bracket => do
              let (height, rest) ← openClass? fuel mode rest
              readInside? fuel grouped mode (s.push (.piece height)) rest
          | .opened (.settings mode) => readInside? fuel grouped mode (s.push .settings) rest
          | .opened (.group inner) => group inner s rest
          | .opened (.named name) => do group mode (← s.take? name) rest

def isPattern (cs : List Char) : Bool :=
  match readInside? (4 * cs.length + 4) false {} {} cs with
  | some (s, _) => s.height ≤ nestingLimit
  | none => false

end Scaffold.Text.Pattern
