import Scaffold.Decimal.Layout
import Scaffold.Json.Basic

/-!
Printing JSON trees: compact without spaces, or pretty with an indent of two spaces.
-/

namespace Scaffold.Json

/-- Positional from `1e-5` to below `1e16`. A double that is no number prints as `null`. -/
def floatLayout : Decimal.Layout := ⟨some (-5, 16), "null", "null", "null"⟩

private def hexDigit (n : Nat) : Char :=
  Nat.digitChar n

def escapeChar : Char → List Char
  | '"' => ['\\', '"']
  | '\\' => ['\\', '\\']
  | '\x08' => ['\\', 'b']
  | '\x0c' => ['\\', 'f']
  | '\n' => ['\\', 'n']
  | '\r' => ['\\', 'r']
  | '\t' => ['\\', 't']
  | c =>
      if c.toNat < 0x20 then ['\\', 'u', '0', '0', hexDigit (c.toNat / 16), hexDigit (c.toNat % 16)]
      else [c]

def quote (s : String) : String :=
  String.ofList ('"' :: s.toList.flatMap escapeChar ++ ['"'])

private def scalarText : Json → String
  | .bool true => "true"
  | .bool false => "false"
  | .integer n => Int.repr n
  | .float x => floatLayout.text x
  | .string s => quote s
  | _ => "null"

mutual

def compact : Json → String
  | .array items => "[" ++ ",".intercalate (compactItems items) ++ "]"
  | .object members => "\x7b" ++ ",".intercalate (compactMembers members) ++ "\x7d"
  | j => scalarText j

def compactItems : List Json → List String
  | [] => []
  | item :: items => compact item :: compactItems items

def compactMembers : List (String × Json) → List String
  | [] => []
  | (key, value) :: members => (quote key ++ ":" ++ compact value) :: compactMembers members

end

private def block (opening closing : String) (margin : String) (lines : List String) : String :=
  if lines.isEmpty then opening ++ closing
  else
    let inner := "\n" ++ margin ++ "  "
    opening ++ inner ++ ("," ++ inner).intercalate lines ++ "\n" ++ margin ++ closing

mutual

def prettyAt (margin : String) : Json → String
  | .array items => block "[" "]" margin (prettyItems (margin ++ "  ") items)
  | .object members => block "\x7b" "\x7d" margin (prettyMembers (margin ++ "  ") members)
  | j => scalarText j

def prettyItems (margin : String) : List Json → List String
  | [] => []
  | item :: items => prettyAt margin item :: prettyItems margin items

def prettyMembers (margin : String) : List (String × Json) → List String
  | [] => []
  | (key, value) :: members =>
      (quote key ++ ": " ++ prettyAt margin value) :: prettyMembers margin members

end

def pretty (j : Json) : String :=
  prettyAt "" j

end Scaffold.Json
