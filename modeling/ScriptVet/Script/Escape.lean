import ScriptVet.Number.Integer
import ScriptVet.Number.Power

/-!
# Escape sequences

What an escape sequence in a string stands for. Hexadecimal forms give a code point; a line
continuation gives nothing; seven letters give control characters; any other text stands for itself.
-/

namespace ScriptVet.Script

/-- Why an escape sequence has no value. -/
inductive EscapeError where
  /-- The number of the code point takes more than 32 bits. -/
  | numberTooLarge
  deriving DecidableEq

/-- The message about an escape sequence without a value. -/
def EscapeError.message : EscapeError → String
  | numberTooLarge => "Python int too large to convert to C int"

namespace Escape

/-- The code point whose number is written in hexadecimal. `otherwise` stands in when the digits are no
number or the number is no code point. -/
def codePoint (digits otherwise : Text) : Except EscapeError Text :=
  match Number.ofText 16 digits with
  | .error _ => .ok otherwise
  | .ok n =>
    if !Number.fitsWord 32 n then .error .numberTooLarge
    else if 0 ≤ n && n < 0x110000 then .ok [CodePoint.ofNat n.toNat]
    else .ok otherwise

/-- A character that ends a line and is left out of a string behind a backslash. -/
def continuesLine (p : CodePoint) : Bool :=
  p.toNat = 10 || p.toNat = 13 || p.toNat = 0x2028 || p.toNat = 0x2029

/-- The control character that a letter stands for behind a backslash. -/
def control? : CodePoint → Option Char
  | .scalar 'n' => some '\n'
  | .scalar 't' => some '\t'
  | .scalar 'r' => some '\r'
  | .scalar 'b' => some '\x08'
  | .scalar 'f' => some '\x0c'
  | .scalar 'v' => some '\x0b'
  | .scalar '0' => some '\x00'
  | _ => none

/-- The value of what follows the backslash, when it has no hexadecimal form. -/
def plain (body : Text) : Text :=
  match body with
  | [] => []
  | p :: rest =>
    if continuesLine p then []
    else if rest.isEmpty then
      match control? p with
      | some c => [.scalar c]
      | none => body
    else body

/-- The value of an escape sequence. Its first code point, the backslash, is not looked at. -/
def decode (sequence : Text) : Except EscapeError Text :=
  let body := sequence.drop 1
  match body with
  | .scalar 'x' :: digits =>
    if digits.length = 2 then codePoint digits body else .ok body
  | .scalar 'u' :: .scalar '{' :: rest =>
    if rest.getLast? = some (.scalar '}') then codePoint rest.dropLast body
    else if rest.length = 3 then codePoint (.scalar '{' :: rest) body
    else .ok body
  | .scalar 'u' :: digits =>
    if digits.length = 4 then codePoint digits body else .ok body
  | body => .ok (plain body)

end Escape

end ScriptVet.Script
