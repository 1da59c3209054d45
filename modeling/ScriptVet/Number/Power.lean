/-!
# Powers

Doubles are whole numbers scaled by a power of two, and decimals by a power of ten.
-/

namespace ScriptVet.Number

/-- A power of two. -/
def twoTo (k : Nat) : Nat := Nat.pow 2 k

/-- A power of ten. -/
def tenTo (k : Nat) : Nat := Nat.pow 10 k

/-- Ten to an integer power, as numerator and denominator. -/
def tenToInt (e : Int) : Nat × Nat := (tenTo e.toNat, tenTo (-e).toNat)

/-- The whole part of `mantissa * 2 ^ power`. -/
def wholePart (mantissa : Nat) (power : Int) : Nat := mantissa * twoTo power.toNat / twoTo (-power).toNat

/-- The integer fits into a signed word of some bits. -/
def fitsWord (bits : Nat) (n : Int) : Bool := -(twoTo (bits - 1) : Int) ≤ n && n < twoTo (bits - 1)

end ScriptVet.Number
