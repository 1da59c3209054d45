import ScriptVet.Number.Power

/-!
# Positive doubles in exact arithmetic

A positive double is a significand of at most 53 bits times a power of two. The product of two doubles is
rounded to the nearest, a tie to the even significand. Everything here is done on natural numbers.
-/

namespace ScriptVet.Number

/-- The value `significand * 2 ^ power`. -/
structure Scaled where
  significand : Nat
  power : Int
  deriving DecidableEq

/-- Why a number is no double, or no integer. -/
inductive OverflowError where
  /-- An integer is beyond the largest double. -/
  | tooLarge
  /-- A product is infinite. -/
  | infinite
  deriving DecidableEq

/-- The message about a number that is too large. -/
def OverflowError.message : OverflowError → String
  | tooLarge => "int too large to convert to float"
  | infinite => "cannot convert float infinity to integer"

namespace Scaled

/-- Rounds to 53 bits: to the nearest, and a tie to the even significand. -/
def round (x : Scaled) : Scaled :=
  let bits := x.significand.log2 + 1
  if bits ≤ 53 then x
  else
    let unit := twoTo (bits - 53)
    let low := x.significand / unit
    let rest := 2 * (x.significand % unit)
    let up := unit < rest || (rest = unit && low % 2 = 1)
    ⟨if up then low + 1 else low, x.power + (bits - 53 : Nat)⟩

/-- The value lies within the range of doubles. -/
def isFinite (x : Scaled) : Bool := x.significand * twoTo x.power.toNat < twoTo (1024 + (-x.power).toNat)

/-- The double nearest to a natural number. -/
def ofNat (n : Nat) : Except OverflowError Scaled :=
  let x := round ⟨n, 0⟩
  if x.isFinite then .ok x else .error .tooLarge

/-- The product of two doubles. -/
def mul (x y : Scaled) : Except OverflowError Scaled :=
  let z := round ⟨x.significand * y.significand, x.power + y.power⟩
  if z.isFinite then .ok z else .error .infinite

/-- The least natural number that is not below the value. -/
def ceil (x : Scaled) : Nat :=
  let unit := twoTo (-x.power).toNat
  (x.significand * twoTo x.power.toNat + (unit - 1)) / unit

end Scaled

end ScriptVet.Number
