import Scaffold.Text.Utf8

/-!
Sources: the text or the bytes that a parser is given.
-/

namespace Scaffold

open Text.Utf8 (Bytes)

inductive Source where
  | text (text : String)
  | bytes (bytes : Bytes)
  deriving DecidableEq, Repr

namespace Source

def toBytes : Source → Bytes
  | .text s => Text.Utf8.encode s
  | .bytes bs => bs

def asText : Source → Except Text.Utf8.Fault String
  | .text s => .ok s
  | .bytes bs => Text.Utf8.decode bs

def length (s : Source) : Nat :=
  s.toBytes.length

def isEmpty (s : Source) : Bool :=
  s.length == 0

def ofContent (content : Bytes) : Source :=
  match Text.Utf8.decode? content with
  | some s => .text s
  | none => .bytes content

end Source

end Scaffold
