import Scaffold.Text.Printable

/-!
Quoted text for diagnostics: in double quotes, with `\"`, `\\`, `\t`, `\r`, `\n`, `\0`, and the code
point in braces for a character that is not printable.
-/

namespace Scaffold.Text

private def hexDigits (n : Nat) : List Char :=
  Nat.toDigits 16 n

def quoteChar : Char → List Char
  | '"' => ['\\', '"']
  | '\\' => ['\\', '\\']
  | '\t' => ['\\', 't']
  | '\r' => ['\\', 'r']
  | '\n' => ['\\', 'n']
  | '\x00' => ['\\', '0']
  | c => if isPrintable c then [c] else ['\\', 'u', '\x7b'] ++ hexDigits c.toNat ++ ['\x7d']

def quoted (s : String) : String :=
  String.ofList ('"' :: s.toList.flatMap quoteChar ++ ['"'])

def bracketed (items : List String) : String :=
  "[" ++ ", ".intercalate items ++ "]"

end Scaffold.Text
