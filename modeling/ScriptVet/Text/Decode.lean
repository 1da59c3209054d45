import ScriptVet.Text.Encode

/-!
# Bytes as text

Decoders for UTF-8, UTF-16 and UTF-32. A surrogate that stands alone in the bytes becomes a surrogate of the
text. Bytes that stand for nothing are reported with their place and the rule they break, or, in UTF-8,
replaced one by one: the bytes that a reader has to give up together count as one.
-/

namespace ScriptVet

/-- Why bytes stand for no code point. -/
inductive BadBytes where
  | startByte
  | tailByte
  | endOfData
  | truncated
  | outOfRange
  deriving DecidableEq

/-- What is said about bytes that stand for nothing. -/
def BadBytes.message : BadBytes → String
  | startByte => "invalid start byte"
  | tailByte => "invalid continuation byte"
  | endOfData => "unexpected end of data"
  | truncated => "truncated data"
  | outOfRange => "code point not in range(0x110000)"

/-- Bytes that stand for nothing: in which encoding, where, and why. -/
structure DecodeError where
  codec : String
  position : Nat
  bytes : List UInt8
  reason : BadBytes
  deriving DecidableEq

/-- The message about bytes that stand for nothing. -/
def DecodeError.message (e : DecodeError) : String :=
  let place := match e.bytes with
    | [b] => s!"byte 0x{Text.hex 2 b.toNat} in position {e.position}"
    | bs => s!"bytes in position {e.position}-{e.position + bs.length - 1}"
  s!"'{e.codec}' codec can't decode {place}: {e.reason.message}"

/-! ## UTF-8 -/

namespace Utf8

/-- What the bytes at a place stand for. -/
inductive Reading where
  /-- A character, and how many bytes follow its first one. -/
  | char (c : Char) (more : Nat)
  /-- Nothing, and how many bytes follow the first one that are given up with it. -/
  | bad (reason : BadBytes) (more : Nat)

/-- Reads the bytes that follow a first byte. `wanted` are missing, `seen` are read, and the next one has to
lie between two bounds. -/
def tail (value seen : Nat) : (wanted : Nat) → (least most : UInt8) → List UInt8 → Reading
  | 0, _, _, _ => .char (Char.ofNat value) seen
  | _ + 1, _, _, [] => .bad .endOfData seen
  | wanted + 1, least, most, b :: rest =>
    if least ≤ b && b ≤ most then tail (value * 64 + (b.toNat - 0x80)) (seen + 1) wanted 0x80 0xBF rest
    else .bad .tailByte seen

/-- Reads the code point that starts with a byte. The bounds on the second byte rule out long forms,
surrogates and numbers above U+10FFFF. -/
def readPoint (b : UInt8) (rest : List UInt8) : Reading :=
  if b < 0x80 then .char (Char.ofNat b.toNat) 0
  else if b < 0xC2 then .bad .startByte 0
  else if b < 0xE0 then tail (b.toNat - 0xC0) 0 1 0x80 0xBF rest
  else if b < 0xF0 then
    tail (b.toNat - 0xE0) 0 2 (if b = 0xE0 then 0xA0 else 0x80) (if b = 0xED then 0x9F else 0xBF) rest
  else if b < 0xF5 then
    tail (b.toNat - 0xF0) 0 3 (if b = 0xF0 then 0x90 else 0x80) (if b = 0xF4 then 0x8F else 0xBF) rest
  else .bad .startByte 0

/-- The surrogate that three bytes would stand for. -/
def surrogate? : List UInt8 → Option CodePoint
  | 0xED :: a :: b :: _ =>
    if 0xA0 ≤ a && a < 0xC0 && 0x80 ≤ b && b < 0xC0 then
      some (.ofNat (0xD000 + (a.toNat - 0x80) * 64 + (b.toNat - 0x80)))
    else none
  | _ => none

/-- Decodes bytes from a position on. The first `skip` of them belong to what was read before. -/
def decodeFrom (surrogates : Bool) (position : Nat) (done : Text) : (skip : Nat) → List UInt8 → Except DecodeError Text
  | _, [] => .ok done.reverse
  | skip + 1, _ :: rest => decodeFrom surrogates (position + 1) done skip rest
  | 0, b :: rest =>
    match readPoint b rest with
    | .char c more => decodeFrom surrogates (position + 1) (.scalar c :: done) more rest
    | .bad reason more =>
      match if surrogates then surrogate? (b :: rest) else none with
      | some p => decodeFrom surrogates (position + 1) (p :: done) 2 rest
      | none => .error ⟨"utf-8", position, b :: rest.take more, reason⟩

/-- The text of bytes. Bytes of a surrogate are accepted when `surrogates` is set. -/
def decode (bytes : List UInt8) (surrogates : Bool := false) : Except DecodeError Text :=
  decodeFrom surrogates 0 [] 0 bytes

/-- Decodes bytes, the first `skip` of which belong to what was read before, with U+FFFD for those that stand
for nothing. -/
def decodeLossyFrom (done : List Char) : (skip : Nat) → List UInt8 → List Char
  | _, [] => done.reverse
  | skip + 1, _ :: rest => decodeLossyFrom done skip rest
  | 0, b :: rest =>
    match readPoint b rest with
    | .char c more => decodeLossyFrom (c :: done) more rest
    | .bad _ more => decodeLossyFrom (Char.ofNat 0xFFFD :: done) more rest

/-- The text of bytes, with U+FFFD for bytes that stand for nothing. -/
def decodeLossy (bytes : List UInt8) : List Char := decodeLossyFrom [] 0 bytes

end Utf8

/-! ## UTF-16 and UTF-32 -/

/-- Which byte of a unit comes first. -/
inductive ByteOrder where
  | little
  | big
  deriving DecidableEq

/-- The short name of a byte order. -/
def ByteOrder.name : ByteOrder → String
  | little => "le"
  | big => "be"

/-- The number that bytes write. -/
def ByteOrder.number (order : ByteOrder) (bytes : List UInt8) : Nat :=
  let high := match order with
    | little => bytes.reverse
    | big => bytes
  high.foldl (fun n b => n * 256 + b.toNat) 0

namespace Utf16

/-- Puts a unit behind what is decoded: a low surrogate joins the high one before it. -/
def push (unit : Nat) (done : Text) : Text :=
  match CodePoint.ofNat unit, done with
  | .surrogate low, .surrogate high :: rest =>
    if 1024 ≤ low.val && high.val < 1024 then .pair high low :: rest
    else .surrogate low :: done
  | p, _ => p :: done

/-- Decodes bytes from a position on. -/
def decodeFrom (order : ByteOrder) (position : Nat) (done : Text) : List UInt8 → Except DecodeError Text
  | [] => .ok done.reverse
  | [b] => .error ⟨s!"utf-16-{order.name}", position, [b], .truncated⟩
  | a :: b :: rest => decodeFrom order (position + 2) (push (order.number [a, b]) done) rest

end Utf16

namespace Utf32

/-- Decodes bytes from a position on. -/
def decodeFrom (order : ByteOrder) (position : Nat) (done : Text) : List UInt8 → Except DecodeError Text
  | [] => .ok done.reverse
  | a :: b :: c :: d :: rest =>
    let n := order.number [a, b, c, d]
    if n < 0x110000 then decodeFrom order (position + 4) (CodePoint.ofNat n :: done) rest
    else .error ⟨s!"utf-32-{order.name}", position, [a, b, c, d], .outOfRange⟩
  | bytes => .error ⟨s!"utf-32-{order.name}", position, bytes, .truncated⟩

end Utf32

end ScriptVet
