import ScriptVet.Number.Shortest

/-!
# Decimals of a given length

A double written with a given number of places behind the point, or with a given number of digits and an exponent.
The exact value is rounded to the nearest decimal of that length, and a tie goes to the even one.
-/

namespace ScriptVet.Number

/-- The quotient rounded to the nearest integer, and a tie to the even one. -/
def roundQuotient (n d : Nat) : Nat :=
  let q := n / d
  let twice := 2 * (n % d)
  if twice < d || (twice = d && q % 2 = 0) then q else q + 1

/-- The value `mantissa * 2 ^ power` as a quotient. -/
def quotient (mantissa : Nat) (power : Int) : Nat × Nat := (mantissa * twoTo power.toNat, twoTo (-power).toNat)

/-- How the digits of a double are written. -/
structure PlacesFormat where
  /-- Keeps the point and the zeros at the end. -/
  keepPoint : Bool
  /-- Writes letters in upper case. -/
  upper : Bool

/-- A number with `places` digits behind its point, given all its digits. -/
def insertPoint (places : Nat) (keepPoint : Bool) (n : Nat) : String :=
  let digits := (toString n).toList
  let digits := List.replicate (places + 1 - digits.length) '0' ++ digits
  let whole := digits.take (digits.length - places)
  let point := if places = 0 && !keepPoint then "" else "."
  String.ofList whole ++ point ++ String.ofList (digits.drop (digits.length - places))

/-- A quotient with `places` digits behind the point. -/
def writeFixed (f : PlacesFormat) (places : Nat) (n d : Nat) : String :=
  insertPoint places f.keepPoint (roundQuotient (n * tenTo places) d)

/-- The digits of a positive quotient as a number of `places + 1` digits, and the exponent of the first one. -/
def scientificDigits (places : Nat) (mantissa : Nat) (power : Int) : Nat × Int :=
  let (n, d) := quotient mantissa power
  let decade := (Interval.of mantissa power).decade
  let (up, down) := tenToInt (places - decade)
  let digits := roundQuotient (n * up) (d * down)
  -- rounding may carry into a new digit
  if digits = tenTo (places + 1) then (digits / 10, decade + 1) else (digits, decade)

/-- The mark of an exponent with its sign and at least two digits. -/
def exponentMark (f : PlacesFormat) (e : Int) : String :=
  (if f.upper then "E" else "e") ++ (if e < 0 then "-" else "+") ++ (if e.natAbs < 10 then "0" else "") ++
    toString e.natAbs

/-- A number without zeros at the end of its places, and without a point when none are left. -/
def trimPlaces (s : String) : String :=
  if s.toList.contains '.' then
    let kept := s.toList.reverse.dropWhile (· = '0')
    String.ofList (kept.dropWhile (· = '.')).reverse
  else s

/-- Which form a double is written in. -/
inductive PlacesStyle where
  | fixed
  | scientific
  /-- The shorter of the two forms, without zeros at the end. -/
  | general

/-- A positive double in a form. -/
def writePositive (f : PlacesFormat) (style : PlacesStyle) (places : Nat) (mantissa : Nat) (power : Int) : String :=
  match style with
  | .fixed =>
    let (n, d) := quotient mantissa power
    writeFixed f places n d
  | .scientific =>
    let (digits, e) := scientificDigits places mantissa power
    insertPoint places f.keepPoint digits ++ exponentMark f e
  | .general =>
    let significant := max places 1
    let (digits, e) := scientificDigits (significant - 1) mantissa power
    if -4 ≤ e ∧ e < significant then
      let (n, d) := quotient mantissa power
      let s := writeFixed f (significant - 1 - e).toNat n d
      if f.keepPoint then s else trimPlaces s
    else
      let s := insertPoint (significant - 1) f.keepPoint digits
      (if f.keepPoint then s else trimPlaces s) ++ exponentMark f e

/-- Zero in a form. -/
def writeZero (f : PlacesFormat) (style : PlacesStyle) (places : Nat) : String :=
  match style with
  | .fixed => insertPoint places f.keepPoint 0
  | .scientific => insertPoint places f.keepPoint 0 ++ exponentMark f 0
  | .general => if f.keepPoint then insertPoint (max places 1 - 1) true 0 else "0"

/-- A double in a form, with a minus sign when it is negative. -/
def writePlaces (f : PlacesFormat) (style : PlacesStyle) (places : Nat) (x : Float) : String :=
  let signed (negative : Bool) (s : String) : String := if negative then "-" ++ s else s
  match Parts.ofFloat x with
  | .notANumber => if f.upper then "NAN" else "nan"
  | .infinite negative => signed negative (if f.upper then "INF" else "inf")
  | .zero negative => signed negative (writeZero f style places)
  | .finite negative mantissa power => signed negative (writePositive f style places mantissa power)

end ScriptVet.Number
