import ScriptVet.Text.Decode

/-!
# Character sets of form fields

A form may name the character set of its fields. Which sets there are is not decided here: a `Codec` knows them. Bytes
that are no text in the set, and bytes in a set that is not known, are read as Latin-1, in which every byte is a
character. Any other failure of the codec is passed on.

`Charset.codec` knows the sets in common use.
-/

namespace ScriptVet.Form

/-- Why a codec gives no text. -/
inductive CodecError where
  /-- There is no set of the name. -/
  | unknown
  /-- The bytes are no text in the set. -/
  | undecodable
  /-- Decoding failed in another way, with a message. -/
  | failed (message : Text)

/-- The texts of bytes in sets that are given by name. -/
abbrev Codec := List Char → List UInt8 → Except CodecError Text

/-- The text of bytes in Latin-1. -/
def latin1 (bytes : List UInt8) : Text := bytes.map fun b => .scalar (Char.ofNat b.toNat)

/-- The text of bytes in a named character set, or else in Latin-1. Fails with the message of a codec that failed. -/
def decodeField (codec : Codec) (charset : List Char) (bytes : List UInt8) : Except Text Text :=
  match codec charset bytes with
  | .ok t => .ok t
  | .error .unknown | .error .undecodable => .ok (latin1 bytes)
  | .error (.failed message) => .error message

/-- A character set. -/
inductive Charset where
  | ascii
  | latin1
  | utf8
  | utf8Marked
  | utf16 (order : Option ByteOrder)
  | utf32 (order : Option ByteOrder)
  | windows1252
  deriving DecidableEq

namespace Charset

/-- The name of a set in lower case, with an underscore for each run of other characters than letters, digits
and points. -/
def normalize (name : List Char) : String :=
  let keep (c : Char) : Bool := c.isAlphanum || c = '.'
  let rec go : List Char → (gap started : Bool) → List Char
    | [], _, _ => []
    | c :: rest, gap, started =>
      if keep c then
        (if gap && started then ['_', c.toLower] else [c.toLower]) ++ go rest false true
      else go rest true started
  String.ofList (go name false false)

/-- The set with a name. -/
def ofName? (name : List Char) : Option Charset :=
  match normalize name with
  | "utf_8" | "utf8" | "u8" | "utf" | "utf8_ucs2" | "utf8_ucs4" | "cp65001" => some utf8
  | "utf_8_sig" => some utf8Marked
  | "latin_1" | "latin1" | "latin" | "l1" | "iso_8859_1" | "iso8859_1" | "iso8859" | "8859" | "cp819" | "ibm819"
  | "csisolatin1" | "iso_ir_100" | "iso_8859_1_1987" => some latin1
  | "ascii" | "us_ascii" | "us" | "646" | "cp367" | "ibm367" | "csascii" | "iso646_us" | "iso_ir_6"
  | "ansi_x3.4_1968" | "ansi_x3_4_1968" | "ansi_x3.4_1986" | "iso_646.irv_1991" => some ascii
  | "utf_16" | "utf16" | "u16" => some (utf16 none)
  | "utf_16_le" | "utf_16le" | "unicodelittleunmarked" => some (utf16 (some .little))
  | "utf_16_be" | "utf_16be" | "unicodebigunmarked" => some (utf16 (some .big))
  | "utf_32" | "utf32" | "u32" => some (utf32 none)
  | "utf_32_le" | "utf_32le" => some (utf32 (some .little))
  | "utf_32_be" | "utf_32be" => some (utf32 (some .big))
  | "cp1252" | "1252" | "windows_1252" => some windows1252
  | _ => none

/-- The characters of the bytes 0x80 to 0x9F in Windows-1252. Zero stands for a byte without a character. -/
def windowsHigh : List Nat :=
  [0x20AC, 0, 0x201A, 0x192, 0x201E, 0x2026, 0x2020, 0x2021, 0x2C6, 0x2030, 0x160, 0x2039, 0x152, 0, 0x17D, 0,
    0, 0x2018, 0x2019, 0x201C, 0x201D, 0x2022, 0x2013, 0x2014, 0x2DC, 0x2122, 0x161, 0x203A, 0x153, 0, 0x17E, 0x178]

/-- The character of a byte in Windows-1252. -/
def windowsChar? (b : UInt8) : Option CodePoint :=
  if 0x80 ≤ b && b < 0xA0 then
    match windowsHigh[b.toNat - 0x80]? with
    | some 0 | none => none
    | some n => some (.scalar (Char.ofNat n))
  else some (.scalar (Char.ofNat b.toNat))

/-- A text without surrogates. -/
def clean? (t : Text) : Option Text := if t.scalars?.isSome then some t else none

/-- The text of UTF-16 in an order, or in the order that a mark gives. -/
def utf16? (order : Option ByteOrder) (bytes : List UInt8) : Option Text :=
  let (order, bytes) := match order, bytes with
    | some o, _ => (o, bytes)
    | none, 0xFF :: 0xFE :: rest => (.little, rest)
    | none, 0xFE :: 0xFF :: rest => (.big, rest)
    | none, _ => (.little, bytes)
  (Utf16.decodeFrom order 0 [] bytes).toOption.bind clean?

/-- The text of UTF-32 in an order, or in the order that a mark gives. -/
def utf32? (order : Option ByteOrder) (bytes : List UInt8) : Option Text :=
  let (order, bytes) := match order, bytes with
    | some o, _ => (o, bytes)
    | none, 0xFF :: 0xFE :: 0 :: 0 :: rest => (.little, rest)
    | none, 0 :: 0 :: 0xFE :: 0xFF :: rest => (.big, rest)
    | none, _ => (.little, bytes)
  (Utf32.decodeFrom order 0 [] bytes).toOption.bind clean?

/-- The text of bytes, when they are one. -/
def decode? (bytes : List UInt8) : Charset → Option Text
  | ascii => if bytes.all (· < 0x80) then some (Form.latin1 bytes) else none
  | latin1 => some (Form.latin1 bytes)
  | utf8 => (Utf8.decode bytes).toOption
  | utf8Marked =>
    match bytes with
    | 0xEF :: 0xBB :: 0xBF :: rest => (Utf8.decode rest).toOption
    | _ => (Utf8.decode bytes).toOption
  | utf16 order => utf16? order bytes
  | utf32 order => utf32? order bytes
  | windows1252 => bytes.mapM windowsChar?

/-- The codec of these sets. -/
def codec : Codec := fun name bytes =>
  match ofName? name with
  | none => .error .unknown
  | some set => ((decode? bytes set).map .ok).getD (.error .undecodable)

end Charset

end ScriptVet.Form
