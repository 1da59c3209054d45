import ScriptVet.Text

/-!
# Decimal literals

Reading digits: the value of a digit string, the cap on how many decimal digits an integer text may
have, and the double nearest to a decimal literal.
-/

namespace ScriptVet.Number

/-- An integer text with more decimal digits than this is refused. -/
def maxIntegerDigits : Nat := 4300

/-- The message about an integer text with too many digits. -/
def tooManyDigitsMessage (digits : Nat) : String :=
  s!"Exceeds the limit ({maxIntegerDigits} digits) for integer string conversion: value has {digits} " ++
    "digits; use sys.set_int_max_str_digits() to increase the limit"

/-- An integer has more decimal digits than are written. -/
def isOverlong (n : Int) : Bool := maxIntegerDigits < (Nat.toDigits 10 n.natAbs).length

/-- The message about an integer that is not written. -/
def overlongMessage : String :=
  s!"Exceeds the limit ({maxIntegerDigits} digits) for integer string conversion; use " ++
    "sys.set_int_max_str_digits() to increase the limit"

/-- The value of an ASCII decimal digit. -/
def digit? (c : Char) : Option Nat :=
  if '0' ≤ c ∧ c ≤ '9' then some (c.toNat - '0'.toNat) else none

/-- The value of an ASCII hexadecimal digit, either case. -/
def hexDigit? (c : Char) : Option Nat :=
  if '0' ≤ c ∧ c ≤ '9' then some (c.toNat - '0'.toNat)
  else if 'a' ≤ c ∧ c ≤ 'f' then some (c.toNat - 'a'.toNat + 10)
  else if 'A' ≤ c ∧ c ≤ 'F' then some (c.toNat - 'A'.toNat + 10)
  else none

/-- An ASCII hexadecimal digit. -/
def isHex (c : Char) : Bool := (hexDigit? c).isSome

/-- The number that digits write in a base, most significant digit first. -/
def ofDigits (base : Nat) (digits : List Nat) : Nat :=
  digits.foldl (fun n d => n * base + d) 0

/-- The number that a run of ASCII decimal digits writes. Other characters are skipped. -/
def ofDecimal (cs : List Char) : Nat := ofDigits 10 (cs.filterMap digit?)

/-- The double nearest to `mantissa` times ten to the power `exponent`. An exponent that is far
outside the range of a double is settled without forming the power. -/
def nearest (mantissa : Nat) (exponent : Int) : Float :=
  let digits : Int := (toString mantissa).length
  if mantissa = 0 then 0.0
  else if digits + exponent > 400 then Float.ofScientific 1 false 400
  else if digits + exponent < -400 then 0.0
  else Float.ofScientific mantissa (exponent < 0) exponent.natAbs

end ScriptVet.Number
