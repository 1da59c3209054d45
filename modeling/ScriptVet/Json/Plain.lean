import ScriptVet.Json.Value
import ScriptVet.Number.Shortest
import ScriptVet.Text.Quoted

/-!
# Values in messages

How a value is shown in the middle of a message. A text stands as it is, or between quotes where it has to be told
from what is around it, as in a list.
-/

namespace ScriptVet

/-- The escaped form of a code point that is no printable ASCII. -/
def Text.asciiPoint (p : CodePoint) : Text :=
  let n := p.toNat
  if n < 0x7F then [p]
  else if n < 0x100 then ofString ("\\x" ++ hex 2 n)
  else if n < 0x10000 then ofString ("\\u" ++ hex 4 n)
  else ofString ("\\U" ++ hex 8 n)

namespace Json

/-- The name of the kind of a value. -/
def kindName : Json → String
  | null => "NoneType"
  | bool _ => "bool"
  | int _ => "int"
  | float _ => "float"
  | str _ => "str"
  | arr _ => "list"
  | obj _ => "dict"

mutual

/-- A value with quotes around texts. -/
def shown : Json → Text
  | null => "None"
  | bool true => "True"
  | bool false => "False"
  | int n => Text.ofInt n
  | float x => Number.plainFloat.write x
  | str t => t.quoted
  | arr items => .scalar '[' :: shownItems items ++ [.scalar ']']
  | obj members => .scalar '\x7b' :: shownMembers members ++ [.scalar '\x7d']

/-- Items with a comma and a space between them. -/
def shownItems : List Json → Text
  | [] => []
  | [v] => shown v
  | v :: rest => shown v ++ .scalar ',' :: .scalar ' ' :: shownItems rest

/-- Members with a comma and a space between them. -/
def shownMembers : List (Text × Json) → Text
  | [] => []
  | [(k, v)] => k.quoted ++ .scalar ':' :: .scalar ' ' :: shown v
  | (k, v) :: rest =>
    k.quoted ++ .scalar ':' :: .scalar ' ' :: shown v ++ .scalar ',' :: .scalar ' ' :: shownMembers rest

end

/-- A value as it stands in a message. -/
def plain : Json → Text
  | str t => t
  | v => shown v

/-- A value with quotes around texts and escapes for all that is not ASCII. -/
def shownAscii (v : Json) : Text := (shown v).flatMap Text.asciiPoint

end Json

end ScriptVet
