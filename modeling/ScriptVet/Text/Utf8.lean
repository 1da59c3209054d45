import ScriptVet.Text

/-!
# UTF-8

The bytes of a character, one to four of them.
-/

namespace ScriptVet.Utf8

/-- The bytes of a code point, of which there are more the larger its number is. -/
def encodePoint (n : Nat) : List UInt8 :=
  let tail (unit : Nat) : UInt8 := (0x80 + n / unit % 64).toUInt8
  if n < 0x80 then [n.toUInt8]
  else if n < 0x800 then [(0xC0 + n / 64).toUInt8, tail 1]
  else if n < 0x10000 then [(0xE0 + n / 4096).toUInt8, tail 64, tail 1]
  else [(0xF0 + n / 262144).toUInt8, tail 4096, tail 64, tail 1]

/-- The bytes of a list of characters. -/
def encode (cs : List Char) : List UInt8 := cs.flatMap fun c => encodePoint c.toNat

/-- The number of bytes of a list of characters. -/
def size (cs : List Char) : Nat := (encode cs).length

end ScriptVet.Utf8
