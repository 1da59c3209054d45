import ScriptVet.Json.Value
import ScriptVet.Number.Binary64
import ScriptVet.Number.FloatText
import ScriptVet.Number.Shortest

/-!
# Fields of settings

Settings are read from JSON values. A value of another kind is taken when it stands for a value of the
wanted kind beyond doubt: a whole number for an integer, a text that writes a number for that number.
-/

namespace ScriptVet.Settings

/-- What is wrong with the value of a field. -/
inductive Issue where
  | greaterThan (bound : Int)
  | lessThan (bound : Int)
  | notInteger
  | integerText
  | integerTextSize
  | fraction
  | notFinite
  | notNumber
  | numberText
  | notText
  | notList
  | notTuple
  | unknownField
  deriving DecidableEq

namespace Issue

/-- The short name of an issue. -/
def code : Issue → String
  | greaterThan _ => "greater_than"
  | lessThan _ => "less_than"
  | notInteger => "int_type"
  | integerText => "int_parsing"
  | integerTextSize => "int_parsing_size"
  | fraction => "int_from_float"
  | notFinite => "finite_number"
  | notNumber => "float_type"
  | numberText => "float_parsing"
  | notText => "string_type"
  | notList => "list_type"
  | notTuple => "tuple_type"
  | unknownField => "extra_forbidden"

/-- What is said about an issue. -/
def message : Issue → String
  | greaterThan bound => s!"Input should be greater than {bound}"
  | lessThan bound => s!"Input should be less than {bound}"
  | notInteger => "Input should be a valid integer"
  | integerText => "Input should be a valid integer, unable to parse string as an integer"
  | integerTextSize => "Unable to parse input string as an integer, exceeded maximum size"
  | fraction => "Input should be a valid integer, got a number with a fractional part"
  | notFinite => "Input should be a finite number"
  | notNumber => "Input should be a valid number"
  | numberText => "Input should be a valid number, unable to parse string as a number"
  | notText => "Input should be a valid string"
  | notList => "Input should be a valid list"
  | notTuple => "Input should be a valid tuple"
  | unknownField => "Extra inputs are not permitted"

end Issue

/-- An issue and where it is: the name of the field, and the place in a list. -/
structure FieldError where
  path : List Text
  issue : Issue
  deriving DecidableEq

/-- A value, or all that is wrong with it. -/
abbrev Checked (α : Type) := Except (List FieldError) α

/-- An issue with a whole field. -/
def failWith {α : Type} (name : String) (issue : Issue) : Checked α := .error [⟨[Text.ofString name], issue⟩]

/-! ## Integers -/

/-- Takes the zeros behind a point away, of which there must be some. -/
def dropZeroFraction (cs : List Char) : List Char :=
  let whole := cs.takeWhile (· ≠ '.')
  let zeros := cs.drop (whole.length + 1)
  if !zeros.isEmpty && zeros.all (· = '0') then whole else cs

/-- The integer that a text writes: a sign, digits with single underscores between them, and perhaps zeros
behind a point. -/
def integerText (t : Text) : Except Issue Int :=
  match (Number.trim t).scalars? with
  | none => .error .integerText
  | some cs =>
    let (sign, digits) := Number.signed (dropZeroFraction cs)
    match Number.dropUnderscores digits with
    | none => .error .integerText
    | some digits =>
      if digits.isEmpty || !digits.all Char.isDigit then .error .integerText
      else if Number.maxIntegerDigits < digits.length then .error .integerTextSize
      else .ok (sign * Number.ofDecimal digits)

/-- The integer that a double is. -/
def wholeFloat (x : Float) : Except Issue Int :=
  match Number.Parts.ofFloat x with
  | .infinite _ | .notANumber => .error .notFinite
  | .zero _ => .ok 0
  | .finite negative mantissa power =>
    if mantissa % Number.twoTo (-power).toNat ≠ 0 then .error .fraction
    else
      let n := Number.wholePart mantissa power
      if n < Number.twoTo 63 then .ok (if negative then -n else n) else .error .integerTextSize

/-- The integer that a value stands for. -/
def integer (v : Json) : Except Issue Int :=
  match v with
  | .int n => .ok n
  | .bool b => .ok (if b then 1 else 0)
  | .float x => wholeFloat x
  | .str t => integerText t
  | _ => .error .notInteger

/-- A field with an integer between two bounds, neither included. -/
def integerField (name : String) (low : Int) (high : Option Int) (v : Json) : Checked Nat :=
  match integer v with
  | .error issue => failWith name issue
  | .ok n =>
    match high with
    | some h =>
      if h ≤ n then failWith name (.lessThan h)
      else if n ≤ low then failWith name (.greaterThan low)
      else .ok n.toNat
    | none => if n ≤ low then failWith name (.greaterThan low) else .ok n.toNat

/-! ## Other kinds -/

/-- The double nearest to an integer within the range of doubles. -/
def floatOfInt (n : Int) : Except Issue Float :=
  match Number.Scaled.ofNat n.natAbs with
  | .ok _ => .ok (Number.withSign (n < 0) (Number.nearest n.natAbs 0))
  | .error _ => .error .notNumber

/-- The double that a value stands for. -/
def number (v : Json) : Except Issue Float :=
  match v with
  | .float x => .ok x
  | .int n => floatOfInt n
  | .bool b => .ok (if b then 1 else 0)
  | .str t =>
    match Number.floatOfText t with
    | some x => .ok x
    | none => .error .numberText
  | _ => .error .notNumber

/-- A field with a number that is not zero or below. -/
def positiveField (name : String) (v : Json) : Checked Float :=
  match number v with
  | .error issue => failWith name issue
  | .ok x => if x ≤ 0 then failWith name (.greaterThan 0) else .ok x

/-- A field with a text. -/
def textField (name : String) (v : Json) : Checked Text :=
  match v with
  | .str t => .ok t
  | _ => failWith name .notText

/-- The texts of a list, or an issue for each item that is none. -/
def textItems (name : String) : Nat → List Json → List Text × List FieldError
  | _, [] => ([], [])
  | i, v :: rest =>
    let (texts, errors) := textItems name (i + 1) rest
    match v with
    | .str t => (t :: texts, errors)
    | _ => (texts, ⟨[Text.ofString name, Text.ofNat i], .notText⟩ :: errors)

/-- A field with a list of texts. `issue` is reported for a value that is no list. -/
def textsField (name : String) (issue : Issue) (v : Json) : Checked (List Text) :=
  match v with
  | .arr items =>
    match textItems name 0 items with
    | (texts, []) => .ok texts
    | (_, errors) => .error errors
  | _ => failWith name issue

/-! ## Records -/

/-- The checked value of a field, or its default when it is not given. -/
def fieldOr {α : Type} (members : List (Text × Json)) (name : String) (default : α)
    (check : String → Json → Checked α) : Checked α :=
  match Json.lookup name members with
  | some v => check name v
  | none => .ok default

/-- What is wrong with a field. -/
def errorsOf {α : Type} : Checked α → List FieldError
  | .ok _ => []
  | .error es => es

end ScriptVet.Settings
