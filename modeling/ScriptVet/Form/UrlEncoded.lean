import ScriptVet.Form.Fields
import ScriptVet.Form.Parameters
import ScriptVet.Text.Decode

/-!
# URL-encoded forms

Fields are separated by ampersands, and the first equals sign of a field separates its name from its value.
In both a plus sign is a space, and a percent sign with two hexadecimal digits is a byte. The bytes of each run
of ASCII characters are read as UTF-8 together. A character beyond ASCII stands for itself, as in Latin-1.
-/

namespace ScriptVet.Form.UrlEncoded

/-- Splits bytes at a separator. The last piece comes first in `done`. -/
def splitOn (separator : UInt8) (bytes : List UInt8) : List (List UInt8) :=
  let (last, done) := bytes.foldl (fun (piece, done) b =>
    if b = separator then ([], piece.reverse :: done) else (b :: piece, done)) (([] : List UInt8), ([] : List (List UInt8)))
  (last.reverse :: done).reverse

/-- The bytes that characters of ASCII stand for. A percent sign without two digits behind it stands for
itself. -/
def percentBytes (cs : List Char) : List UInt8 := (percentDecode cs).map fun c => c.toNat.toUInt8

/-- Decodes characters, where `run` holds the ASCII characters before them, last one first. -/
def decodeRuns (run : List Char) (done : List Char) : List Char → List Char
  | [] => done.reverse ++ Utf8.decodeLossy (percentBytes run.reverse)
  | c :: rest =>
    if c.toNat < 0x80 then decodeRuns (c :: run) done rest
    else decodeRuns [] (c :: (Utf8.decodeLossy (percentBytes run.reverse)).reverse ++ done) rest

/-- The text of an encoded name or value. -/
def decode (bytes : List UInt8) : Text :=
  let cs := bytes.map fun b => if b = 0x2B then ' ' else Char.ofNat b.toNat
  Text.ofChars (decodeRuns [] [] cs)

/-- The name and the value of a piece of a form. -/
def field (piece : List UInt8) : Text × Text :=
  (decode (piece.takeWhile (· ≠ 0x3D)), decode ((piece.dropWhile (· ≠ 0x3D)).drop 1))

/-- The fields of a form with at most `limit` of them. -/
def parse (limit : Nat) (body : List UInt8) : Except FormError FormFields :=
  let pieces := (splitOn 0x26 body).filter fun p => !p.isEmpty
  if limit < pieces.length then .error (.tooManyFields limit) else .ok (pieces.map field)

end ScriptVet.Form.UrlEncoded
