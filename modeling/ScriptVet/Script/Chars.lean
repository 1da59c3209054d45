/-!
# Character classes of scripts

Which characters separate tokens, end lines and form names. Names are generous: every character is a
name character unless it is a control character, a blank or one of the listed punctuation marks.
-/

namespace ScriptVet.Script

/-- A character that may stand between any two tokens. -/
def isBlank (c : Char) : Bool :=
  let n := c.toNat
  (9 ≤ n && n ≤ 13) || n = 0x20 || n = 0xA0 || n = 0x1680 || (0x2000 ≤ n && n ≤ 0x200B) ||
    n = 0x2028 || n = 0x2029 || n = 0x202F || n = 0x205F || n = 0x2060 || n = 0x3000 || n = 0xFEFF

/-- A blank at which a line may be broken. The search for a line end passes over these only. -/
def isSpace (c : Char) : Bool :=
  let n := c.toNat
  (9 ≤ n && n ≤ 13) || n = 0x20 || n = 0x1680 || (0x2000 ≤ n && n ≤ 0x2006) ||
    (0x2008 ≤ n && n ≤ 0x200A) || n = 0x2028 || n = 0x2029 || n = 0x205F || n = 0x3000

/-- A character that ends a line. A carriage return alone does not. -/
def isLineEnd (c : Char) : Bool :=
  c = '\n' || c.toNat = 0x2028 || c.toNat = 0x2029

/-- A character that ends a comment to the end of the line. -/
def endsComment (c : Char) : Bool := isLineEnd c || c = '\r'

/-- The punctuation marks, none of which belongs to a name. -/
def marks : List Char :=
  [':', ';', '`', '"', '\'', '@', '#', '.', ',', '|', '^', '&', '<', '=', '>', '+', '-', '*', '/',
    '\\', '%', '?', '!', '~', '(', ')', '[', ']', '{', '}']

/-- An ASCII decimal digit. -/
def isDigit (c : Char) : Bool := '0' ≤ c && c ≤ '9'

/-- A character that may continue a name. -/
def isNamePart (c : Char) : Bool :=
  if c.toNat < 0x80 then 0x1F < c.toNat && c ≠ ' ' && !marks.contains c else !isBlank c

/-- A character that may start a name. -/
def isNameStart (c : Char) : Bool := isNamePart c && !isDigit c

end ScriptVet.Script
