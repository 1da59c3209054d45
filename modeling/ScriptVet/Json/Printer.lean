import ScriptVet.Json.Value
import ScriptVet.Number.Shortest

/-!
# Writing JSON

One line of printable ASCII: a comma and a colon are followed by a space, and every code point
outside U+0020 to U+007E is escaped. A code point above U+FFFF takes two escapes, one per UTF-16
unit, and a lone surrogate takes one, so no information is lost except whether two neighbouring
surrogates were one code point.
-/

namespace ScriptVet.Json

/-- A hexadecimal digit in lower case. -/
def hexDigit (n : Nat) : Char :=
  if n < 10 then Char.ofNat ('0'.toNat + n) else Char.ofNat ('a'.toNat + (n - 10))

/-- Four hexadecimal digits of a UTF-16 unit. -/
def hex4 (unit : Nat) : List Char :=
  [hexDigit (unit / 4096 % 16), hexDigit (unit / 256 % 16), hexDigit (unit / 16 % 16),
    hexDigit (unit % 16)]

/-- The escape of a UTF-16 unit. -/
def escapeUnit (unit : Nat) : List Char := '\\' :: 'u' :: hex4 unit

/-- A code point inside a string. -/
def escapePoint : CodePoint → List Char
  | .surrogate n => escapeUnit (0xD800 + n.val)
  | .scalar c =>
    if c = '"' then ['\\', '"']
    else if c = '\\' then ['\\', '\\']
    else if c = '\n' then ['\\', 'n']
    else if c = '\r' then ['\\', 'r']
    else if c = '\t' then ['\\', 't']
    else if c = '\x0c' then ['\\', 'f']
    else if c = '\x08' then ['\\', 'b']
    else if 0x20 ≤ c.toNat ∧ c.toNat ≤ 0x7E then [c]
    else if c.toNat < 0x10000 then escapeUnit c.toNat
    else
      let n := c.toNat - 0x10000
      escapeUnit (0xD800 + n / 1024) ++ escapeUnit (0xDC00 + n % 1024)

/-- A text as a JSON string. -/
def quote (t : Text) : List Char := '"' :: t.flatMap escapePoint ++ ['"']

mutual

/-- A value on one line. -/
def write : Json → List Char
  | null => "null".toList
  | bool true => "true".toList
  | bool false => "false".toList
  | int n => (toString n).toList
  | float x => (Number.jsonFloat.write x).toList
  | str t => quote t
  | arr items => '[' :: writeItems items ++ [']']
  | obj members => '\x7b' :: writeMembers members ++ ['\x7d']

/-- Items with a comma and a space between them. -/
def writeItems : List Json → List Char
  | [] => []
  | [v] => write v
  | v :: rest => write v ++ ',' :: ' ' :: writeItems rest

/-- Members with a comma and a space between them. -/
def writeMembers : List (Text × Json) → List Char
  | [] => []
  | [(k, v)] => quote k ++ ':' :: ' ' :: write v
  | (k, v) :: rest => quote k ++ ':' :: ' ' :: write v ++ ',' :: ' ' :: writeMembers rest

end

end ScriptVet.Json
