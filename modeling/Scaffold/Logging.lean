import Scaffold.Config.Basic
import Scaffold.Text.ByteOffset
import Scaffold.Text.Numeral
import Scaffold.Text.Pattern.Reader

/-!
Which events are logged: a filter has entries that name levels, for all targets or for single ones,
and within a target for spans.
-/

namespace Scaffold

inductive Verbosity where
  | off | error | warn | info | debug | trace
  deriving DecidableEq, Repr

namespace Verbosity

def all : List Verbosity := [.off, .error, .warn, .info, .debug, .trace]

def name : Verbosity → String
  | .off => "off"
  | .error => "error"
  | .warn => "warn"
  | .info => "info"
  | .debug => "debug"
  | .trace => "trace"

/-- The place from the least verbose on; a filter may write it for the name. -/
def rank : Verbosity → Nat
  | .off => 0
  | .error => 1
  | .warn => 2
  | .info => 3
  | .debug => 4
  | .trace => 5

def more (v w : Verbosity) : Verbosity :=
  if v.rank < w.rank then w else v

private def place? (cs : List Char) : Option Nat :=
  let digits := match cs with
    | '+' :: rest => rest
    | _ => cs
  if !digits.isEmpty && digits.all Text.isAsciiDigit then some (Text.digitsToNat digits) else none

/-- The verbosity of a name in whatever case, or of a place. -/
def ofName? (s : String) : Option Verbosity :=
  match all.find? fun v => v.name == s.toLower with
  | some v => some v
  | none => (place? s.toList).bind fun n => all.find? fun v => v.rank == n

end Verbosity

namespace LogSettings

/-- The filter that counts: the one of the environment, or else the level of the settings, or else
`info`. Blank ones do not count. -/
def filter (l : LogSettings) (environment : Option String) : String :=
  match environment.filter (!Text.blank ·) with
  | some s => s
  | none => if Text.blank l.level then "info" else l.level

end LogSettings

/-- What an entry of a filter allows. Where it looks at the value of a field, nothing can be left out
before the value is known. -/
structure LogEntry where
  level : Verbosity := .trace
  valued : Bool := false
  deriving DecidableEq, Repr

/-- Why an entry of a filter cannot be read: it is none, or one of its parts ends inside a
character. -/
inductive LogFault where
  | malformed
  | brokenCharacter
  deriving DecidableEq, Repr

namespace LogEntry

/-- The characters of an entry from a place on. The place is where `rest` begins in the entry without
the blanks around it, but it is counted in bytes in the entry as it is written, so that blanks in
front show an earlier part. -/
private def tail (entry rest : List Char) : Except LogFault (List Char) :=
  let place := Text.byteCount (Text.trimList entry) - Text.byteCount rest
  match Text.dropBytes? place entry with
  | some shown => .ok shown
  | none => .error .brokenCharacter

private def part (entry cs rest : List Char) : Except LogFault (List Char) := do
  match Text.takeBytes? (Text.byteCount cs) (← tail entry rest) with
  | some shown => return shown
  | none => throw .brokenCharacter

private def isTargetStart (c : Char) : Bool :=
  Text.isAlphanumeric c || c == '-' || c == ':' || c == '_'

/-- The level after an equals sign; all levels where nothing follows. -/
private def readLevel (entry rest : List Char) : Except LogFault Verbosity := do
  let shown ← tail entry rest
  if shown.isEmpty then return .trace
  else match Verbosity.ofName? (String.ofList shown) with
    | some level => return level
    | none => throw .malformed

private def readAfterSpan (entry : List Char) (valued : Bool) (rest : List Char) :
    Except LogFault LogEntry :=
  match rest with
  | [] => return { valued }
  | '=' :: rest => return { level := ← readLevel entry rest, valued }
  | _ => throw .malformed

/-- Whether a field has a value after its name, which has to be a number or a pattern. What a second
equals sign separates does not count. -/
private def readValued (field : List Char) : Except LogFault Bool :=
  match field.dropWhile (· != '=') with
  | [] => return false
  | _ :: rest =>
      let value := rest.takeWhile (· != '=')
      if Text.isNumeral value || Text.Pattern.isPattern value then return true
      else throw .malformed

/-- Reads an entry from the bracket on that opens a span. In it stand a name and, in braces, a field,
either of which may be left out; empty braces are refused. -/
private def readSpan (entry rest : List Char) : Except LogFault LogEntry := do
  let name := rest.takeWhile fun c => c != ']' && c != '\x7b'
  match rest.dropWhile fun c => c != ']' && c != '\x7b' with
  | [] => throw .malformed
  | ']' :: after =>
      let _ ← part entry name rest
      readAfterSpan entry false after
  | _ :: inner =>
      let _ ← part entry name rest
      match inner.dropWhile (· != '\x7d') with
      | [] => throw .malformed
      | _ :: closed =>
          let field ← part entry (inner.takeWhile (· != '\x7d')) inner
          if field.isEmpty then throw .malformed
          let valued ← readValued field
          match closed with
          | ']' :: after => readAfterSpan entry valued after
          | _ => throw .malformed

/-- Reads an entry: a level alone, or a target, a span or both, with a level or without one. A target
or a span without a level allows all. -/
def read (entry : List Char) : Except LogFault LogEntry := do
  let cs := Text.trimList entry
  match cs with
  | [] => throw .malformed
  | '[' :: rest => readSpan entry rest
  | c :: _ =>
      if !isTargetStart c then throw .malformed
      else
        match cs.dropWhile fun c => c != '=' && c != '[' with
        | [] => return { level := (Verbosity.ofName? (String.ofList entry)).getD .trace }
        | mark :: rest =>
            let _ ← part entry (cs.takeWhile fun c => c != '=' && c != '[') cs
            if mark == '=' then return { level := ← readLevel entry rest }
            else readSpan entry rest

end LogEntry

namespace LogFilter

/-- The entries of a filter, which commas separate. Malformed ones do not count; no filter has an
entry that breaks a character. -/
def entries? (filter : String) : Option (List LogEntry) :=
  let read := (filter.toList.splitOn ',').map LogEntry.read
  if read.any fun | .error .brokenCharacter => true | _ => false then none
  else some (read.filterMap Except.toOption)

/-- The most verbose level that entries allow for any target. Where there are none, errors are
allowed. -/
def verbosity : List LogEntry → Verbosity
  | [] => .error
  | e :: es => if (e :: es).any (·.valued) then .trace else (es.map (·.level)).foldl .more e.level

def verbosity? (filter : String) : Option Verbosity :=
  (entries? filter).map verbosity

end LogFilter

end Scaffold
