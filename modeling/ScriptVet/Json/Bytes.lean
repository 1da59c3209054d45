import ScriptVet.Json.Reader
import ScriptVet.Text.Decode

/-!
# JSON in bytes

The encoding of a JSON text shows in its first bytes: by a mark, or else by where zero bytes stand, since a
JSON text starts with ASCII characters.
-/

namespace ScriptVet.Json

/-- The encoding that bytes are in, and how many bytes its mark takes. -/
inductive Encoding where
  | utf8 (mark : Nat)
  | utf16 (order : ByteOrder) (mark : Nat)
  | utf32 (order : ByteOrder) (mark : Nat)
  deriving DecidableEq

/-- The encoding that the first bytes show. -/
def Encoding.detect : List UInt8 → Encoding
  | 0 :: 0 :: 0xFE :: 0xFF :: _ => utf32 .big 4
  | 0xFF :: 0xFE :: 0 :: 0 :: _ => utf32 .little 4
  | 0xFE :: 0xFF :: _ => utf16 .big 2
  | 0xFF :: 0xFE :: _ => utf16 .little 2
  | 0xEF :: 0xBB :: 0xBF :: _ => utf8 3
  | a :: b :: c :: d :: _ =>
    if a = 0 then (if b = 0 then utf32 .big 0 else utf16 .big 0)
    else if b = 0 then (if c = 0 && d = 0 then utf32 .little 0 else utf16 .little 0)
    else utf8 0
  | [a, b] => if a = 0 then utf16 .big 0 else if b = 0 then utf16 .little 0 else utf8 0
  | _ => utf8 0

/-- The text of bytes in an encoding. Positions of errors count the mark, except in UTF-8. -/
def Encoding.decode (bytes : List UInt8) : Encoding → Except DecodeError Text
  | utf8 mark => Utf8.decode (bytes.drop mark) true
  | utf16 order mark => Utf16.decodeFrom order mark [] (bytes.drop mark)
  | utf32 order mark => Utf32.decodeFrom order mark [] (bytes.drop mark)

/-- Why bytes are no JSON. -/
inductive BytesError where
  /-- The bytes are no text. -/
  | undecodable (e : DecodeError)
  /-- The text could not be read. -/
  | unreadable (t : Text) (e : ReadError)

/-- The JSON value in bytes, whose containers are nested at most `depth` deep. -/
def parseBytes (depth : Nat) (bytes : List UInt8) : Except BytesError Json :=
  match (Encoding.detect bytes).decode bytes with
  | .error e => .error (.undecodable e)
  | .ok t =>
    match document depth t with
    | .ok v => .ok v
    | .error e => .error (.unreadable t e)

end ScriptVet.Json
