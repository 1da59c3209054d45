import ScriptVet.Text

/-!
# Texts with a UTF-8 form

A text with a surrogate has no UTF-8 form. What stands in the way is the first run of surrogates.
-/

namespace ScriptVet

/-- The first run of surrogates in a text: where it starts, how long it is, and its first member. -/
structure Unencodable where
  start : Nat
  length : Nat
  first : Fin 2048
  deriving DecidableEq

namespace Text

/-- A number in lower-case hexadecimal with at least `width` digits. -/
def hex (width n : Nat) : String :=
  let digits := Nat.toDigits 16 n
  String.ofList (List.replicate (width - digits.length) '0' ++ digits)

/-- The first run of surrogates. -/
def unencodable? (t : Text) : Option Unencodable :=
  let isSurrogate (p : CodePoint) : Bool := p.scalar?.isNone
  let rest := t.dropWhile (!isSurrogate ·)
  match rest with
  | .surrogate n :: _ =>
    some ⟨t.length - rest.length, (rest.takeWhile isSurrogate).length, n⟩
  | _ => none

/-- The scalar values of a text, or what stands in the way of its UTF-8 form. -/
def encode (t : Text) : Except Unencodable (List Char) :=
  match t.unencodable? with
  | some bad => .error bad
  | none => .ok (t.filterMap CodePoint.scalar?)

end Text

/-- The message about a text without a UTF-8 form. -/
def Unencodable.message (u : Unencodable) : String :=
  let codec := "'utf-8' codec can't encode "
  if u.length = 1 then
    s!"{codec}character '\\u{Text.hex 4 (0xD800 + u.first.val)}' in position {u.start}: surrogates not allowed"
  else
    s!"{codec}characters in position {u.start}-{u.start + u.length - 1}: surrogates not allowed"

end ScriptVet
