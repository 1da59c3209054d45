import ScriptVet.Number.Literal
import ScriptVet.Text.Blank
import ScriptVet.Text.Quoted

/-!
# Integers as people write them

Blanks around, a sign, a mark for the base, and single underscores between digits are allowed. Decimal
digits may come from any script of Unicode.
-/

namespace ScriptVet.Number

/-- Why a text is no integer. -/
inductive IntegerError where
  /-- The text has another form. -/
  | malformed
  /-- More decimal digits than are read. -/
  | tooManyDigits (digits : Nat)
  deriving DecidableEq

/-- The message about a text that is no integer in base ten. -/
def notIntegerMessage (t : Text) : Text := Text.ofString "invalid literal for int() with base 10: " ++ t.quoted

/-- A code point as a reader of integers sees it: blanks are spaces and decimal digits are ASCII digits.
Anything else beyond ASCII is no part of an integer. -/
def simplify (p : CodePoint) : Option Char :=
  match p with
  | .surrogate _ => none
  | .scalar c =>
    if c.toNat < 0x7F then some c
    else if p.isBlank then some ' '
    else p.decimal?.map fun d => Char.ofNat ('0'.toNat + d)

/-- The value of a digit in a base of at most 36. -/
def digitIn? (base : Nat) (c : Char) : Option Nat :=
  let value :=
    if '0' ≤ c && c ≤ '9' then c.toNat - '0'.toNat
    else if 'a' ≤ c && c ≤ 'z' then c.toNat - 'a'.toNat + 10
    else if 'A' ≤ c && c ≤ 'Z' then c.toNat - 'A'.toNat + 10
    else base
  if value < base then some value else none

/-- The digits at the start of a list, with single underscores between them, and what follows. -/
def digitRun (base : Nat) : List Char → List Nat → Option (List Nat × List Char)
  | '_' :: c :: rest, digits =>
    match digitIn? base c with
    | some d => if digits.isEmpty then none else digitRun base rest (d :: digits)
    | none => none
  | c :: rest, digits =>
    match digitIn? base c with
    | some d => digitRun base rest (d :: digits)
    | none => if digits.isEmpty || c = '_' then none else some (digits.reverse, c :: rest)
  | [], digits => if digits.isEmpty then none else some (digits.reverse, [])

/-- The sign at the start of a list, as a factor, and what follows. -/
def signed : List Char → Int × List Char
  | '-' :: rest => (-1, rest)
  | '+' :: rest => (1, rest)
  | cs => (1, cs)

/-- Moves over the mark of base sixteen. One underscore may follow it. -/
def baseMark (base : Nat) (cs : List Char) : List Char :=
  match base, cs with
  | 16, '0' :: 'x' :: '_' :: rest | 16, '0' :: 'X' :: '_' :: rest => rest
  | 16, '0' :: 'x' :: rest | 16, '0' :: 'X' :: rest => rest
  | _, cs => cs

/-- An ASCII blank. -/
def isAsciiBlank (c : Char) : Bool := (9 ≤ c.toNat && c.toNat ≤ 13) || c = ' '

/-- The integer that a text writes in a base. The cap on digits holds for base ten alone, and is checked
before what follows the digits. -/
def ofText (base : Nat) (t : Text) : Except IntegerError Int :=
  let cs := t.map fun p => (simplify p).getD '?'
  let (sign, cs) := signed (cs.dropWhile isAsciiBlank)
  match digitRun base (baseMark base cs) [] with
  | none => .error .malformed
  | some (digits, rest) =>
    if base = 10 && maxIntegerDigits < digits.length then .error (.tooManyDigits digits.length)
    else if rest.all isAsciiBlank then .ok (sign * ofDigits base digits)
    else .error .malformed

end ScriptVet.Number
