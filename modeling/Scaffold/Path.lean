/-!
Paths as texts: what stands between the slashes, parents, file names, and joining. Nothing here looks
at a file system, and nothing is normalised that need not be.
-/

namespace Scaffold.Path

def splitChars : List Char → List (List Char)
  | [] => [[]]
  | c :: cs =>
      if c = '/' then [] :: splitChars cs
      else
        match splitChars cs with
        | [] => [[c]]
        | s :: ss => (c :: s) :: ss

def split (path : String) : List String :=
  (splitChars path.toList).map String.ofList

def isAbsolute (path : String) : Bool :=
  path.toList.head? == some '/'

inductive Component where
  | root
  | current
  | parent
  | name (name : String)
  deriving DecidableEq, Repr

/-- The component that a stretch stands for after the first; an empty stretch and a single dot stand
for none. -/
def component? (stretch : String) : Option Component :=
  if stretch = "" || stretch = "." then none
  else if stretch = ".." then some .parent
  else some (.name stretch)

/-- The components of a path. A dot counts only in front. -/
def components (path : String) : List Component :=
  if isAbsolute path then .root :: (split path).filterMap component?
  else
    (if (split path).head? == some "." then [.current] else []) ++
      (split path).filterMap component?

def fileName? (path : String) : Option String :=
  match (components path).getLast? with
  | some (.name n) => some n
  | _ => none

/-- What follows the last dot of the file name, unless nothing stands before that dot. -/
def extension? (path : String) : Option String := do
  let reversed := (← fileName? path).toList.reverse
  let stem := (reversed.dropWhile (· != '.')).drop 1
  if stem.isEmpty then none else some (String.ofList (reversed.takeWhile (· != '.')).reverse)

/-- Stretches up to the last one that stands for something. -/
def dropEmptyEnd (stretches : List String) : List String :=
  (stretches.reverse.dropWhile fun s => (component? s).isNone).reverse

def joined (stretches : List String) : String :=
  "/".intercalate stretches

/-- The path without its last component, as it is written; none for a path that is empty or a root. -/
def parent? (path : String) : Option String :=
  let stretches := split path
  if isAbsolute path then
    match dropEmptyEnd (stretches.drop 1) with
    | [] => none
    | body => some ("/" ++ joined (dropEmptyEnd body.dropLast))
  else
    let lead := if stretches.head? == some "." then ["."] else []
    match dropEmptyEnd (stretches.drop lead.length) with
    | [] => if lead.isEmpty then none else some ""
    | body => some (joined (lead ++ dropEmptyEnd body.dropLast))

def ancestorsFrom : (fuel : Nat) → String → List String
  | 0, path => [path]
  | fuel + 1, path =>
      path ::
        match parent? path with
        | some p => ancestorsFrom fuel p
        | none => []

/-- The path, its parent, the parent of that, and so on. Every parent is shorter. -/
def ancestors (path : String) : List String :=
  ancestorsFrom path.length path

/-- The second path seen from the first: an absolute one as it is, any other after one slash, which
is not added to an empty path or after a slash. -/
def join (base path : String) : String :=
  if isAbsolute path then path
  else if base.isEmpty || base.toList.getLast? == some '/' then base ++ path
  else base ++ "/" ++ path

end Scaffold.Path
