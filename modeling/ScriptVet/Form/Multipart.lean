import ScriptVet.Form.Charset
import ScriptVet.Form.Fields
import ScriptVet.Form.Parameters

/-!
# Forms in parts

A boundary stands before, between and after the parts of such a form. A part has header lines, an empty line
and data. A part whose end is missing is no part of the form, and what follows the last boundary is passed over.
-/

namespace ScriptVet.Form.Multipart

/-- How many fields a form may have, and how they are encoded. -/
structure Options where
  maxFields : Nat
  codec : Codec
  charset : List Char

/-- A part may have this many kilobytes of data. -/
def maxPartKilobytes : Nat := 1024

/-- The result of reading something that may end too early, which is no error by itself: what was read and what
follows it. -/
abbrev Read (α : Type) := Except FormError (Option (α × List UInt8))

/-- A byte that may stand in the name of a header. -/
def isToken (b : UInt8) : Bool :=
  let c := Char.ofNat b.toNat
  c.isAlphanum || "!#$%&'*+-.^_`|~".toList.contains c

/-- Moves over a byte that has to stand here. -/
def expect (b : UInt8) : List UInt8 → Read Unit
  | [] => .ok none
  | x :: rest => if x = b then .ok (some ((), rest)) else .error .malformed

/-- Moves over bytes that have to stand here. -/
def expectAll : List UInt8 → List UInt8 → Read Unit
  | [], bytes => .ok (some ((), bytes))
  | _ :: _, [] => .ok none
  | b :: bs, x :: rest => if x = b then expectAll bs rest else .error .malformed

/-- A line of the header of a part. -/
structure Line where
  name : List UInt8
  value : List UInt8

/-- Reads a line: a name, a colon, and what stands before the end of the line. -/
def line (bytes : List UInt8) : Read Line :=
  let name := bytes.takeWhile isToken
  match bytes.drop name.length with
  | [] => .ok none
  | c :: rest =>
    if c ≠ 0x3A || name.isEmpty then .error .malformed
    else
      let rest := rest.dropWhile (· = 0x20)
      let value := rest.takeWhile (· ≠ 0x0D)
      match expectAll [0x0D, 0x0A] (rest.drop value.length) with
      | .error e => .error e
      | .ok none => .ok none
      | .ok (some (_, rest)) => .ok (some (⟨name, value⟩, rest))

/-- Reads lines up to an empty one. There are no more of them than bytes. -/
def lines (done : List Line) : (fuel : Nat) → List UInt8 → Read (List Line)
  | 0, _ => .ok none
  | _, [] => .ok none
  | fuel + 1, b :: rest =>
    if b = 0x0D then
      match expect 0x0A rest with
      | .error e => .error e
      | .ok none => .ok none
      | .ok (some (_, rest)) => .ok (some (done.reverse, rest))
    else
      match line (b :: rest) with
      | .error e => .error e
      | .ok none => .ok none
      | .ok (some (l, rest)) => lines (l :: done) fuel rest

/-- What stands behind a boundary. -/
inductive Ending where
  /-- Another part. -/
  | next (rest : List UInt8)
  /-- The end of the form. -/
  | last
  /-- Too few bytes to tell. -/
  | cut
  /-- Other bytes, so that it is no boundary. -/
  | none

/-- Looks at what stands behind a boundary. -/
def ending : List UInt8 → Ending
  | [] | [0x0D] | [0x2D] => .cut
  | 0x0D :: 0x0A :: rest => .next rest
  | 0x2D :: 0x2D :: _ => .last
  | _ => .none

/-- Reads data up to a line that starts with two hyphens and the boundary. -/
def data (boundary : List UInt8) (done : List UInt8) : List UInt8 → Option (List UInt8 × Ending)
  | [] => none
  | b :: rest =>
    if (0x0D :: 0x0A :: 0x2D :: 0x2D :: boundary).isPrefixOf (b :: rest) then
      match ending (rest.drop (boundary.length + 3)) with
      | .none => data boundary (b :: done) rest
      | .cut => none
      | e => some (done.reverse, e)
    else data boundary (b :: done) rest

/-- The name of the header that names a part. -/
def disposition : List UInt8 := "content-disposition".toUTF8.toList

/-- A byte in lower case. -/
def lowerByte (b : UInt8) : UInt8 := if 0x41 ≤ b && b ≤ 0x5A then b + 32 else b

/-- The header that names a part: the last one of that name. -/
def dispositionOf (ls : List Line) : Header :=
  match ls.reverse.find? fun l => l.name.map lowerByte = disposition with
  | some l => Header.parse (l.value.map fun b => Char.ofNat b.toNat)
  | none => ⟨[], []⟩

/-- The bytes of a parameter, each of whose characters stands for one. -/
def parameterBytes (cs : List Char) : List UInt8 := cs.map fun c => c.toNat.toUInt8

/-- The text of bytes of a field. -/
def Options.decode (o : Options) (bytes : List UInt8) : Except FormFailure Text :=
  (decodeField o.codec o.charset bytes).mapError .failed

/-- The name of a part with these header lines. A part with a file name is a file. -/
def partName (o : Options) (ls : List Line) : Except FormFailure Text := do
  let header := dispositionOf ls
  match header.parameter? "name" with
  | none => throw (.refused .missingName)
  | some name =>
    let name ← o.decode (parameterBytes name)
    if (header.parameter? "filename").isSome then throw (.refused .tooManyFiles)
    return name

/-- Reads parts behind `count` others, whose fields stand last one first in `done`. There are no more parts than
bytes. -/
def parts (o : Options) (boundary : List UInt8) (count : Nat) (done : FormFields) :
    (fuel : Nat) → List UInt8 → Except FormFailure FormFields
  | 0, _ => .ok done.reverse
  | fuel + 1, bytes => do
    match ← (lines [] bytes.length bytes).mapError .refused with
    | none => return done.reverse
    | some (ls, rest) =>
      let name ← partName o ls
      if o.maxFields ≤ count then throw (.refused (.tooManyFields o.maxFields))
      let found := data boundary [] rest
      let size := (found.map fun (content, _) => content.length).getD rest.length
      if maxPartKilobytes * 1024 < size then throw (.refused (.partTooLarge maxPartKilobytes))
      match found with
      | none => return done.reverse
      | some (content, e) =>
        let done := (name, ← o.decode content) :: done
        match e with
        | .next rest => parts o boundary (count + 1) done fuel rest
        | _ => return done.reverse

/-- The fields of a form, which may start with empty lines. -/
def parse (o : Options) (boundary body : List UInt8) : Except FormFailure FormFields := do
  let bytes := body.dropWhile fun b => b = 0x0D || b = 0x0A
  match ← (expectAll (0x2D :: 0x2D :: boundary) bytes).mapError .refused with
  | none => return []
  | some (_, 0x2D :: rest) =>
    let _ ← (expect 0x2D rest).mapError FormFailure.refused
    return []
  | some (_, rest) =>
    match ← (expectAll [0x0D, 0x0A] rest).mapError .refused with
    | none => return []
    | some (_, rest) => parts o boundary 0 [] (rest.length + 1) rest

end ScriptVet.Form.Multipart
