import ScriptVet.Number.Integer

/-!
# Floating-point numbers as people write them

Digits with an optional point and exponent, or the word for infinity or for no number, in any case. Blanks
may stand around, and single underscores between digits.
-/

namespace ScriptVet.Number

/-- A double from its sign and magnitude. -/
def withSign (negative : Bool) (x : Float) : Float := if negative then -x else x

/-- The exponent at the end of a number. -/
def exponentTail : List Char → Option Int
  | [] => some 0
  | c :: rest =>
    if c = 'e' || c = 'E' then
      let (sign, digits) := signed rest
      if !digits.isEmpty && digits.all Char.isDigit then some (sign * ofDecimal digits) else none
    else none

/-- The magnitude that digits, a point and an exponent write. -/
def magnitude (cs : List Char) : Option Float := do
  let whole := cs.takeWhile Char.isDigit
  let rest := cs.drop whole.length
  let (fraction, rest) := match rest with
    | '.' :: r => (r.takeWhile Char.isDigit, r.dropWhile Char.isDigit)
    | r => ([], r)
  if whole.isEmpty && fraction.isEmpty then none
  let exponent ← exponentTail rest
  return nearest (ofDecimal (whole ++ fraction)) (exponent - fraction.length)

/-- The double that a list of characters without blanks writes. -/
def ofPlain (cs : List Char) : Option Float :=
  let (negative, rest) := match cs with
    | '-' :: r => (true, r)
    | '+' :: r => (false, r)
    | r => (false, r)
  let magnitude := match String.ofList (rest.map Char.toLower) with
    | "inf" | "infinity" => some (1.0 / 0.0)
    | "nan" => some (0.0 / 0.0)
    | _ => magnitude rest
  magnitude.map (withSign negative)

/-- Takes single underscores out. Two together, or one at an end, are not allowed. -/
def dropUnderscores (cs : List Char) : Option (List Char) :=
  if !cs.contains '_' then some cs
  else if cs.head? = some '_' || cs.getLast? = some '_' || doubled cs then none
  else some (cs.filter (· ≠ '_'))
where
  /-- Two underscores stand together. -/
  doubled : List Char → Bool
    | a :: b :: rest => (a = '_' && b = '_') || doubled (b :: rest)
    | _ => false

/-- A text without the blanks around it. -/
def trim (t : Text) : Text := ((t.dropWhile CodePoint.isBlank).reverse.dropWhile CodePoint.isBlank).reverse

/-- The double that a text writes. -/
def floatOfText (t : Text) : Option Float := do
  ofPlain (← dropUnderscores (← (trim t).scalars?))

end ScriptVet.Number
