/-!
# Texts

A text is a sequence of Unicode code points. Scripts, request fields and log messages come from
clients and may hold a surrogate that stands alone, which `Char` rules out, so a code point is
either a scalar value or a lone surrogate. Two surrogates next to each other stay two code points:
only a decoder pairs them up.

`scalars?` says which texts have a UTF-8 form, and `units16` counts what the size ceiling counts.
-/

namespace ScriptVet

/-- A Unicode code point: a scalar value, or a surrogate, given by its distance from U+D800. -/
inductive CodePoint where
  | scalar (c : Char)
  | surrogate (offset : Fin 2048)
  deriving DecidableEq, Inhabited

namespace CodePoint

/-- The number of the code point. -/
def toNat : CodePoint → Nat
  | scalar c => c.toNat
  | surrogate n => 0xD800 + n.val

/-- The code point with a given number. Numbers above U+10FFFF give U+0000. -/
def ofNat (n : Nat) : CodePoint :=
  if h : 0xD800 ≤ n ∧ n < 0xE000 then
    surrogate ⟨n - 0xD800, by omega⟩
  else
    scalar (Char.ofNat n)

/-- The scalar value, unless the code point is a surrogate. -/
def scalar? : CodePoint → Option Char
  | scalar c => some c
  | surrogate _ => none

/-- A high surrogate, U+D800 to U+DBFF. -/
def isHigh : CodePoint → Bool
  | scalar _ => false
  | surrogate n => n.val < 1024

/-- A low surrogate, U+DC00 to U+DFFF. -/
def isLow : CodePoint → Bool
  | scalar _ => false
  | surrogate n => 1024 ≤ n.val

/-- How many UTF-16 units the code point takes. -/
def units16 : CodePoint → Nat
  | scalar c => if c.toNat < 0x10000 then 1 else 2
  | surrogate _ => 1

/-- The scalar value that a high and a low surrogate stand for together. -/
def pair (high low : Fin 2048) : CodePoint :=
  ofNat (0x10000 + high.val * 1024 + (low.val - 1024))

instance : Coe Char CodePoint := ⟨scalar⟩

instance : LT CodePoint := ⟨fun a b => a.toNat < b.toNat⟩

instance (a b : CodePoint) : Decidable (a < b) := inferInstanceAs (Decidable (a.toNat < b.toNat))

end CodePoint

/-- A sequence of code points. -/
abbrev Text := List CodePoint

namespace Text

/-- The text of a list of scalar values. -/
def ofChars (cs : List Char) : Text := cs.map .scalar

/-- The text of a string. -/
def ofString (s : String) : Text := ofChars s.toList

instance : Coe String Text := ⟨ofString⟩

/-- The scalar values of a text that holds no surrogate. These are the texts with a UTF-8 form. -/
def scalars? (t : Text) : Option (List Char) := t.mapM CodePoint.scalar?

/-- The length in UTF-16 units. -/
def units16 (t : Text) : Nat := t.foldl (fun n p => n + p.units16) 0

/-- The decimal digits of a natural number. -/
def ofNat (n : Nat) : Text := ofString (toString n)

/-- The decimal digits of an integer, after a minus sign when it is negative. -/
def ofInt (n : Int) : Text := ofString (toString n)

/-- The texts one after another with a separator between neighbours. -/
def join (separator : Text) : List Text → Text
  | [] => []
  | [t] => t
  | t :: ts => t ++ separator ++ join separator ts

/-- The text starts with the characters of a string. -/
def startsWith (t : Text) (s : String) : Bool := (ofString s).isPrefixOf t

/-- The text ends with the characters of a string. -/
def endsWith (t : Text) (s : String) : Bool := (ofString s).isSuffixOf t

/-- The string of a text, where a surrogate becomes U+FFFD. -/
def display (t : Text) : String :=
  String.ofList (t.map fun p => p.scalar?.getD (Char.ofNat 0xFFFD))

end Text

end ScriptVet
