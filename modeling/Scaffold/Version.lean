import Scaffold.Text.Blank
import Scaffold.Text.DecimalDigit

/-!
Versions at the start of a version range: `^4.18.0`, `~1.2`, `>=2.0.0-rc.1 <3`, `v1`.
-/

namespace Scaffold

structure Version where
  major : Nat
  minor : Nat
  patch : Nat
  prerelease : Option String
  deriving DecidableEq, Repr

inductive VersionError where
  | invalidFormat (text : String)
  | foreignDigit
  | overflow
  deriving DecidableEq, Repr

def VersionError.message : VersionError → String
  | .invalidFormat text => s!"Invalid version format: {text}"
  | .foreignDigit => "Parse error: invalid digit found in string"
  | .overflow => "Parse error: number too large to fit in target type"

namespace Version

/-- The range operators; of two that fit, the longer stands first. -/
def operators : List (List Char) :=
  [['^'], ['~', '>'], ['~'], ['>', '='], ['<', '='], ['>'], ['<'], ['=']]

def dropOperator (cs : List Char) : List Char :=
  match operators.find? (·.isPrefixOf cs) with
  | some op => cs.drop op.length
  | none => cs

def dropV : List Char → List Char
  | 'v' :: cs => cs
  | 'V' :: cs => cs
  | cs => cs

inductive Component where
  | digits (cs : List Char)
  | wildcard
  deriving DecidableEq, Repr

def isWildcard (c : Char) : Bool :=
  c == 'x' || c == 'X' || c == '*'

def component? : List Char → Option Component × List Char
  | '.' :: c :: cs =>
      if Text.isDecimalDigit c then
        (some (.digits ((c :: cs).takeWhile Text.isDecimalDigit)),
          (c :: cs).dropWhile Text.isDecimalDigit)
      else if isWildcard c then (some .wildcard, cs)
      else (none, '.' :: c :: cs)
  | cs => (none, cs)

def isTagChar (c : Char) : Bool :=
  Text.isAsciiDigit c || ('A' ≤ c && c ≤ 'Z') || ('a' ≤ c && c ≤ 'z') || c == '.' || c == '-'

def prerelease? : List Char → Option String
  | '-' :: cs =>
      let tag := cs.takeWhile isTagChar
      if tag.isEmpty then none else some (String.ofList tag)
  | _ => none

structure Parts where
  major : List Char
  minor : Option Component
  patch : Option Component
  prerelease : Option String
  deriving DecidableEq, Repr

/-- Takes the parts off the start of a text, as much of each as there is; nothing if no digit stands
where the major number should be. -/
def parts? (cs : List Char) : Option Parts :=
  let cs := dropV ((dropOperator (cs.dropWhile Text.isBlank)).dropWhile Text.isBlank)
  let major := cs.takeWhile Text.isDecimalDigit
  if major.isEmpty then none
  else
    let (minor, cs) := component? (cs.dropWhile Text.isDecimalDigit)
    let (patch, cs) := component? cs
    some ⟨major, minor, patch, prerelease? cs⟩

/-- The number of a row of digits, read from the left until a digit is not one of `0` to `9` or the
number leaves 64 bits. -/
def number (value : Nat) : List Char → Except VersionError Nat
  | [] => .ok value
  | c :: cs =>
      if Text.isAsciiDigit c then
        let value := 10 * value + (c.toNat - '0'.toNat)
        if value < UInt64.size then number value cs else .error .overflow
      else .error .foreignDigit

/-- The number of a component; one that is absent or a wildcard counts as zero. -/
def Component.number : Option Component → Except VersionError Nat
  | some (.digits cs) => Version.number 0 cs
  | _ => .ok 0

/-- Reads the version that a text starts with; what follows it does not matter. -/
def parse (s : String) : Except VersionError Version :=
  match parts? s.toList with
  | none => .error (.invalidFormat s)
  | some parts => do
      let major ← number 0 parts.major
      let minor ← Component.number parts.minor
      let patch ← Component.number parts.patch
      return ⟨major, minor, patch, parts.prerelease⟩

def isRelease (v : Version) : Bool :=
  v.prerelease.isNone

/-- Numbers first, then a release comes after its prereleases. Two prereleases of the same numbers
are on a par. -/
def precedence (v w : Version) : Ordering :=
  (compare v.major w.major).then <| (compare v.minor w.minor).then <|
    (compare v.patch w.patch).then <| compare v.isRelease w.isRelease

end Version

end Scaffold
