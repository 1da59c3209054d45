import ScriptVet.Number.Literal
import ScriptVet.Number.Power

/-!
# Shortest decimals

The decimal with the fewest digits that reads back as a given double, and of those the one nearest
to it. A finite double is `m * 2 ^ q`; the reals that round to it form an interval, whose ends
belong to it when `m` is even. For one, two, ... seventeen digits the two neighbours of the double
on that decimal grid are tried, in exact integer arithmetic, until one falls into the interval.
-/

namespace ScriptVet.Number

/-- A positive decimal `d.ddd * 10 ^ exponent`, most significant digit first. -/
structure Decimal where
  digits : List Nat
  exponent : Int

/-- What a double is: a number with a sign, an infinity with a sign, or no number. -/
inductive Parts where
  | zero (negative : Bool)
  /-- The value `mantissa * 2 ^ power` with a sign. -/
  | finite (negative : Bool) (mantissa : Nat) (power : Int)
  | infinite (negative : Bool)
  | notANumber

/-- Takes a double apart. -/
def Parts.ofFloat (x : Float) : Parts :=
  let bits := x.toBits.toNat
  let negative := bits / twoTo 63 = 1
  let biased : Nat := bits / twoTo 52 % 2048
  let low := bits % twoTo 52
  if biased = 2047 then (if low = 0 then .infinite negative else .notANumber)
  else if biased = 0 then (if low = 0 then .zero negative else .finite negative low (-1074))
  else .finite negative (twoTo 52 + low) ((biased : Int) - 1075)

/-- The value and the ends of the interval of reals that round to it, as numerators over one
denominator, and whether the ends belong to the interval. -/
structure Interval where
  value : Nat
  low : Nat
  high : Nat
  denominator : Nat
  closed : Bool

/-- The interval of `mantissa * 2 ^ power`. Below a power of two the doubles are twice as dense. -/
def Interval.of (mantissa : Nat) (power : Int) : Interval :=
  let up := twoTo power.toNat
  let below := if mantissa = twoTo 52 ∧ power > -1074 then 1 else 2
  { value := 4 * mantissa * up
    low := (4 * mantissa - below) * up
    high := (4 * mantissa + 2) * up
    denominator := 4 * twoTo (-power).toNat
    closed := mantissa % 2 = 0 }

/-- The interval holds the rational `n / d`. -/
def Interval.holds (i : Interval) (n d : Nat) : Bool :=
  let x := n * i.denominator
  if i.closed then i.low * d ≤ x && x ≤ i.high * d else i.low * d < x && x < i.high * d

/-- The largest `e` with `10 ^ e ≤ value`, searched upwards or downwards from zero. -/
def Interval.decade (i : Interval) : Int :=
  if i.denominator ≤ i.value then
    ((toString (i.value / i.denominator)).length : Int) - 1
  else
    let rec down (fuel k : Nat) : Int :=
      match fuel with
      | 0 => -(k : Int)
      | fuel + 1 => if i.denominator ≤ i.value * tenTo k then -(k : Int) else down fuel (k + 1)
    down 400 1

/-- The multiple of `10 ^ e` in the interval that is nearest to the value, if there is one. A value
half way between two takes the even one. -/
def Interval.onGrid (i : Interval) (e : Int) : Option Nat :=
  let (up, down) := tenToInt e
  let grid := i.denominator * up
  let lower := i.value * down / grid
  let rest := i.value * down % grid
  let fits (k : Nat) : Bool := 0 < k && i.holds (k * up) down
  match fits lower, fits (lower + 1) with
  | true, true =>
    if 2 * rest < grid || (2 * rest = grid && lower % 2 = 0) then some lower else some (lower + 1)
  | true, false => some lower
  | false, true => some (lower + 1)
  | false, false => none

/-- The decimal digits of a natural number, without zeros at the end. -/
def significant (k : Nat) : List Nat :=
  let ds := (toString k).toList.filterMap digit?
  (ds.reverse.dropWhile (· = 0)).reverse

/-- Tries grids with more and more digits. -/
def Interval.search (i : Interval) (decade : Int) : Nat → Nat → Decimal
  | 0, _ => ⟨[0], 0⟩
  | fuel + 1, places =>
    let e := decade - places
    match i.onGrid e with
    | some k => ⟨significant k, e + ((toString k).length : Int) - 1⟩
    | none => i.search decade fuel (places + 1)

/-- The shortest decimal that reads back as `mantissa * 2 ^ power`. -/
def shortest (mantissa : Nat) (power : Int) : Decimal :=
  let i := Interval.of mantissa power
  i.search i.decade 20 0

/-- How a double is written: which decimal exponents stand without an exponent mark. -/
structure FloatFormat where
  leastPositional : Int
  endPositional : Int
  infinity : String
  notANumber : String

/-- The digits as text. -/
def digitText (ds : List Nat) : String := String.join (ds.map toString)

/-- A decimal with its point written out and at least one digit on each side of it. -/
def Decimal.positional (d : Decimal) : String :=
  if d.exponent < 0 then
    "0." ++ String.ofList (List.replicate (-d.exponent - 1).toNat '0') ++ digitText d.digits
  else
    let whole := d.exponent.toNat + 1
    let ds := d.digits ++ List.replicate (whole - d.digits.length) 0
    let places := ds.drop whole
    digitText (ds.take whole) ++ "." ++ (if places.isEmpty then "0" else digitText places)

/-- A decimal with an exponent mark, its sign and at least two exponent digits. -/
def Decimal.scientific (d : Decimal) : String :=
  let places := d.digits.drop 1
  let e := d.exponent.natAbs
  digitText (d.digits.take 1) ++ (if places.isEmpty then "" else "." ++ digitText places) ++ "e" ++
    (if d.exponent < 0 then "-" else "+") ++ (if e < 10 then "0" else "") ++ toString e

/-- The text of a double in a format. -/
def FloatFormat.write (f : FloatFormat) (x : Float) : String :=
  let signed (negative : Bool) (s : String) : String := if negative then "-" ++ s else s
  match Parts.ofFloat x with
  | .notANumber => f.notANumber
  | .infinite negative => signed negative f.infinity
  | .zero negative => signed negative "0.0"
  | .finite negative mantissa power =>
    let d := shortest mantissa power
    signed negative <|
      if f.leastPositional ≤ d.exponent ∧ d.exponent < f.endPositional then d.positional
      else d.scientific

/-- Doubles are written without an exponent from 0.0001 up to, but not including, 10 ^ 16. -/
def plainFloat : FloatFormat := ⟨-4, 16, "inf", "nan"⟩

/-- As `plainFloat`, with the words that JSON readers know for values that are not finite. -/
def jsonFloat : FloatFormat := ⟨-4, 16, "Infinity", "NaN"⟩

end ScriptVet.Number
