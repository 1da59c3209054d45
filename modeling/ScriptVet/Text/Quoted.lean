import ScriptVet.Text.Encode
import ScriptVet.Text.Printable

/-!
# Quoted texts

Messages show a text between quotes with escapes: single quotes, unless the text has a single quote
and no double quote. Characters that are not printable are shown by their numbers.
-/

namespace ScriptVet.Text

/-- The escaped form of a code point between quotes. -/
def quotedPoint (quote : Char) (p : CodePoint) : Text :=
  let n := p.toNat
  if p = .scalar quote || p = .scalar '\\' then ['\\', p]
  else if n = 9 then "\\t"
  else if n = 10 then "\\n"
  else if n = 13 then "\\r"
  else if p.isPrintable then [p]
  else if n < 0x100 then "\\x" ++ hex 2 n
  else if n < 0x10000 then "\\u" ++ hex 4 n
  else "\\U" ++ hex 8 n

/-- The text between quotes. -/
def quoted (t : Text) : Text :=
  let quote := if t.contains (.scalar '\'') && !t.contains (.scalar '"') then '"' else '\''
  .scalar quote :: t.flatMap (quotedPoint quote) ++ [.scalar quote]

/-- The escaped form of a byte between quotes. -/
def quotedByte (quote : Char) (b : UInt8) : List Char :=
  let c := Char.ofNat b.toNat
  if c = quote || c = '\\' then ['\\', c]
  else if c = '\t' then "\\t".toList
  else if c = '\n' then "\\n".toList
  else if c = '\r' then "\\r".toList
  else if 0x20 ≤ b.toNat && b.toNat < 0x7F then [c]
  else "\\x".toList ++ (hex 2 b.toNat).toList

/-- Bytes between quotes, marked as bytes. -/
def quotedBytes (bytes : List UInt8) : List Char :=
  let has (c : Char) : Bool := bytes.any fun b => b.toNat = c.toNat
  let quote := if has '\'' && !has '"' then '"' else '\''
  'b' :: quote :: bytes.flatMap (quotedByte quote) ++ [quote]

end ScriptVet.Text
