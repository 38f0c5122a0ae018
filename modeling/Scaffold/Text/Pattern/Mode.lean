import Scaffold.Text.Blank

/-!
Patterns (regular expressions): the settings that say how the characters of one are to be read.
-/

namespace Scaffold.Text.Pattern

/-- The settings that matter for reading. Where a pattern is `verbose`, blanks and comments between
its parts do not count; where it is `unicode`, its classes hold characters of every script, and
otherwise ASCII characters only. -/
structure Mode where
  verbose : Bool := false
  unicode : Bool := true
  deriving DecidableEq, Repr

/-- The characters from the first part on. A comment runs from a number sign to the end of its
line. -/
def dropBlanks (comment : Bool) : List Char → List Char
  | [] => []
  | c :: cs =>
      if comment then dropBlanks (c != '\n') cs
      else if isBlank c then dropBlanks false cs
      else if c == '#' then dropBlanks true cs
      else c :: cs

namespace Mode

def skip (mode : Mode) (cs : List Char) : List Char :=
  if mode.verbose then dropBlanks false cs else cs

/-- The letters of all settings: case, lines, the point, greed, Unicode, line ends and blanks. -/
def letters : List Char := ['i', 'm', 's', 'U', 'u', 'R', 'x']

/-- The mode after a row of settings: letters to switch on, and after a hyphen letters to switch off.
No letter may be repeated, and a hyphen needs one after it. -/
def set? (mode : Mode) (settings : List Char) : Option Mode :=
  if (settings.all fun c => c == '-' || letters.contains c) && settings.Nodup
      && settings.getLast? != some '-' then
    let on := settings.takeWhile (· != '-')
    let off := settings.dropWhile (· != '-')
    let now (letter : Char) (before : Bool) := on.contains letter || before && !off.contains letter
    some { verbose := now 'x' mode.verbose, unicode := now 'u' mode.unicode }
  else none

end Mode

end Scaffold.Text.Pattern
