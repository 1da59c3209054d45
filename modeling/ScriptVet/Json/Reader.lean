import ScriptVet.Json.Value
import ScriptVet.Number.Literal

/-!
# Reading JSON

The reader accepts JSON with three extra literals, `NaN`, `Infinity` and `-Infinity`. A later member
of the same name replaces the value of an earlier one. Control characters below U+0020 may not stand
in a string. A `\uD800`-style escape that has no partner stays a lone surrogate.

A text that is no JSON gives a `Problem` and the position where it shows. Two more causes are no
syntax problems: an integer with too many digits, and containers nested too deep. How deep is too deep depends on the
room that the caller leaves, so it is an argument of the reader.
-/

namespace ScriptVet.Json

/-- Why a text is no JSON. -/
inductive Problem where
  | byteOrderMark
  | expectedValue
  | expectedName
  | expectedColon
  | expectedComma
  | extraData
  | unterminatedString
  | controlCharacter
  | badEscape
  | badUnicodeEscape
  deriving DecidableEq

/-- The words for a problem. -/
def Problem.words : Problem → String
  | .byteOrderMark => "Unexpected UTF-8 BOM (decode using utf-8-sig)"
  | .expectedValue => "Expecting value"
  | .expectedName => "Expecting property name enclosed in double quotes"
  | .expectedColon => "Expecting ':' delimiter"
  | .expectedComma => "Expecting ',' delimiter"
  | .extraData => "Extra data"
  | .unterminatedString => "Unterminated string starting at"
  | .controlCharacter => "Invalid control character at"
  | .badEscape => "Invalid \\escape"
  | .badUnicodeEscape => "Invalid \\uXXXX escape"

/-- The two kinds of container. -/
inductive Container where
  | array
  | object
  deriving DecidableEq

/-- Why reading failed. -/
inductive ReadError where
  /-- The text is no JSON; the position counts code points from the start. -/
  | malformed (problem : Problem) (position : Nat)
  /-- An integer literal has more digits than allowed. -/
  | tooManyDigits (count : Nat)
  /-- A container is nested deeper than allowed. -/
  | tooDeep (container : Container)
  deriving DecidableEq

/-- Where the reader stands: how many code points it has passed and what is left. -/
structure Input where
  position : Nat
  rest : Text

namespace Input

/-- Moves over `n` code points. -/
def advance (i : Input) (n : Nat) : Input := ⟨i.position + n, i.rest.drop n⟩

/-- A JSON blank. -/
def isBlank (p : CodePoint) : Bool :=
  p = ' ' || p = '\t' || p = '\n' || p = '\r'

/-- Moves over blanks. -/
def skipBlanks (i : Input) : Input :=
  go i.position i.rest
where
  go (position : Nat) : Text → Input
    | [] => ⟨position, []⟩
    | p :: rest => if isBlank p then go (position + 1) rest else ⟨position, p :: rest⟩

/-- Fails with a problem at the current position. -/
def fail {α : Type} (i : Input) (problem : Problem) : Except ReadError (α × Input) :=
  .error (.malformed problem i.position)

end Input

/-! ## Strings -/

/-- The value of four hexadecimal digits. -/
def hex4? : Text → Option Nat
  | .scalar a :: .scalar b :: .scalar c :: .scalar d :: _ => do
    return Number.ofDigits 16 [← Number.hexDigit? a, ← Number.hexDigit? b,
      ← Number.hexDigit? c, ← Number.hexDigit? d]
  | _ => none

/-- The character that a letter after a backslash stands for. -/
def simpleEscape? : Char → Option Char
  | '"' => some '"'
  | '\\' => some '\\'
  | '/' => some '/'
  | 'b' => some '\x08'
  | 'f' => some '\x0c'
  | 'n' => some '\n'
  | 'r' => some '\r'
  | 't' => some '\t'
  | _ => none

/-- Joins the escape at the front with a second escape when the two are a surrogate pair. The
result is the code point and how many code points of `rest` the second escape takes. A second
escape that is cut short or holds another digit is a problem of its own, told by `none`. -/
def pairUp (unit : Nat) (rest : Text) : Option (CodePoint × Nat) :=
  let first := CodePoint.ofNat unit
  match first, rest with
  | .surrogate high, .scalar '\\' :: .scalar 'u' :: digits =>
    -- the pair also needs a code point after its last digit
    if first.isHigh && (digits.take 5).length = 5 then
      match hex4? digits with
      | none => none
      | some low =>
        match CodePoint.ofNat low with
        | .surrogate n => if 1024 ≤ n.val then some (CodePoint.pair high n, 6) else some (first, 0)
        | .scalar _ => some (first, 0)
    else some (first, 0)
  | _, _ => some (first, 0)

/-- Reads the rest of a string after its opening quote. `opened` is the position of that quote and
`done` the code points read so far, last first. The fuel is at least the number of code points
left. -/
def stringTail (opened : Nat) : Nat → Text → Input → Except ReadError (Text × Input)
  | 0, _, _ => .error (.malformed .unterminatedString opened)
  | fuel + 1, done, ⟨position, rest⟩ =>
    match rest with
    | [] => .error (.malformed .unterminatedString opened)
    | .scalar '"' :: rest => .ok (done.reverse, ⟨position + 1, rest⟩)
    | .scalar '\\' :: .scalar 'u' :: digits =>
      -- four digits, and at least one more code point for the closing quote
      if (digits.take 5).length < 5 then
        .error (.malformed .badUnicodeEscape (position + 1))
      else
        match hex4? digits with
        | none => .error (.malformed .badUnicodeEscape (position + 1))
        | some unit =>
          match pairUp unit (digits.drop 4) with
          | none => .error (.malformed .badUnicodeEscape (position + 7))
          | some (point, more) =>
            stringTail opened fuel (point :: done) ⟨position + 6 + more, digits.drop (4 + more)⟩
    | [.scalar '\\'] => .error (.malformed .unterminatedString opened)
    | .scalar '\\' :: letter :: rest =>
      match letter.scalar?.bind simpleEscape? with
      | some c => stringTail opened fuel (.scalar c :: done) ⟨position + 2, rest⟩
      | none => .error (.malformed .badEscape position)
    | p :: rest =>
      if p.toNat < 0x20 then .error (.malformed .controlCharacter position)
      else stringTail opened fuel (p :: done) ⟨position + 1, rest⟩

/-- Reads a string whose opening quote is at the front of the input. The fuel is at least the number
of code points left. -/
def string (fuel : Nat) (i : Input) : Except ReadError (Text × Input) :=
  stringTail i.position fuel [] (i.advance 1)

/-! ## Numbers and words -/

/-- Splits off the ASCII decimal digits at the front. -/
def digits (t : Text) : List Char × Text :=
  go [] t
where
  go (done : List Char) : Text → List Char × Text
    | .scalar c :: rest =>
      if (Number.digit? c).isSome then go (c :: done) rest else (done.reverse, .scalar c :: rest)
    | rest => (done.reverse, rest)

/-- The fraction at the front: a point and at least one digit. -/
def fraction (t : Text) : List Char × Text :=
  match t with
  | .scalar '.' :: rest =>
    match digits rest with
    | ([], _) => ([], t)
    | found => found
  | _ => ([], t)

/-- The exponent at the front: a letter, an optional sign and at least one digit. Gives its value
and the number of code points it takes. -/
def exponent (t : Text) : Option (Int × Nat) × Text :=
  match t with
  | .scalar mark :: rest =>
    if mark = 'e' || mark = 'E' then
      let (signs, negative, rest) := match rest with
        | .scalar '-' :: rest => (1, true, rest)
        | .scalar '+' :: rest => (1, false, rest)
        | rest => (0, false, rest)
      match digits rest with
      | ([], _) => (none, t)
      | (ds, rest) =>
        let n : Int := Number.ofDecimal ds
        (some (if negative then -n else n, 1 + signs + ds.length), rest)
    else (none, t)
  | _ => (none, t)

/-- Reads a number. Without a fraction and an exponent it is an integer. -/
def number (i : Input) : Except ReadError (Json × Input) :=
  let (negative, unsigned) := match i.rest with
    | .scalar '-' :: rest => (true, rest)
    | rest => (false, rest)
  let (whole, rest) := match unsigned with
    | .scalar '0' :: rest => (['0'], rest)
    | _ => digits unsigned
  if whole.isEmpty then i.fail .expectedValue
  else
    let start := i.position + (if negative then 1 else 0) + whole.length
    let (places, rest) := fraction rest
    let (power, rest) := exponent rest
    match places, power with
    | [], none =>
      if whole.length > Number.maxIntegerDigits then .error (.tooManyDigits whole.length)
      else
        let n : Int := Number.ofDecimal whole
        .ok (.int (if negative then -n else n), ⟨start, rest⟩)
    | places, power =>
      let (power, width) := power.getD (0, 0)
      let x := Number.nearest (Number.ofDecimal (whole ++ places)) (power - places.length)
      let stop := start + (if places.isEmpty then 0 else 1 + places.length) + width
      .ok (.float (if negative then -x else x), ⟨stop, rest⟩)

/-- The literal words and their values. -/
def words : List (String × Json) :=
  [("null", .null), ("true", .bool true), ("false", .bool false), ("NaN", .float (0.0 / 0.0)),
    ("Infinity", .float (1.0 / 0.0)), ("-Infinity", .float (-1.0 / 0.0))]

/-- Reads a literal word, or else a number. -/
def wordOrNumber (i : Input) : Except ReadError (Json × Input) :=
  match words.find? fun (w, _) => i.rest.startsWith w with
  | some (w, v) => .ok (v, i.advance w.length)
  | none => number i

/-! ## Values -/

/-- Reads the items of an array after the first bracket or a comma. -/
def items (value : Input → Except ReadError (Json × Input)) : Nat → List Json → Input → Except ReadError (Json × Input)
  | 0, _, i => i.fail .expectedValue
  | fuel + 1, done, i => do
    let (item, i) ← value i
    let i := i.skipBlanks
    match i.rest with
    | .scalar ']' :: _ => .ok (.arr (item :: done).reverse, i.advance 1)
    | .scalar ',' :: _ => items value fuel (item :: done) (i.advance 1).skipBlanks
    | _ => i.fail .expectedComma

/-- Reads the members of an object after the first brace or a comma. -/
def members (size : Nat) (value : Input → Except ReadError (Json × Input)) :
    Nat → List (Text × Json) → Input → Except ReadError (Json × Input)
  | 0, _, i => i.fail .expectedName
  | fuel + 1, done, i =>
    match i.rest with
    | .scalar '"' :: _ => do
      let (name, i) ← string size i
      let i := i.skipBlanks
      match i.rest with
      | .scalar ':' :: _ =>
        let (item, i) ← value (i.advance 1).skipBlanks
        let i := i.skipBlanks
        let done := insert name item done
        match i.rest with
        | .scalar '}' :: _ => .ok (.obj done, i.advance 1)
        | .scalar ',' :: _ => members size value fuel done (i.advance 1).skipBlanks
        | _ => i.fail .expectedComma
      | _ => i.fail .expectedColon
    | _ => i.fail .expectedName

/-- Reads a value that holds containers at most `depth` deep. `size` is at least the number of code
points left. -/
def value (size : Nat) : Nat → Input → Except ReadError (Json × Input)
  | depth, i =>
    match i.rest with
    | [] => i.fail .expectedValue
    | .scalar '"' :: _ => do
      let (t, i) ← string size i
      return (.str t, i)
    | .scalar '[' :: _ =>
      match depth with
      | 0 => .error (.tooDeep .array)
      | depth + 1 =>
        let i := (i.advance 1).skipBlanks
        match i.rest with
        | .scalar ']' :: _ => .ok (.arr [], i.advance 1)
        | _ => items (value size depth) size [] i
    | .scalar '{' :: _ =>
      match depth with
      | 0 => .error (.tooDeep .object)
      | depth + 1 =>
        let i := (i.advance 1).skipBlanks
        match i.rest with
        | .scalar '}' :: _ => .ok (.obj [], i.advance 1)
        | _ => members size (value size depth) size [] i
    | _ => wordOrNumber i

/-- Reads a text as one JSON value with nothing but blanks around it, whose containers are nested at most `depth`
deep. -/
def document (depth : Nat) (t : Text) : Except ReadError Json :=
  match value (t.length + 1) depth (Input.mk 0 t).skipBlanks with
  | .error e => .error e
  | .ok (v, i) =>
    let i := i.skipBlanks
    if i.rest.isEmpty then .ok v else .error (.malformed .extraData i.position)

/-- Reads a text as one JSON value. A byte order mark is no part of a text and should have been taken away
when it was decoded. -/
def parse (depth : Nat) (t : Text) : Except ReadError Json :=
  match t with
  | .scalar '\ufeff' :: _ => .error (.malformed .byteOrderMark 0)
  | _ => document depth t

/-! ## Messages -/

/-- The line of a position, counted from one. -/
def lineOf (t : Text) (position : Nat) : Nat :=
  ((t.take position).filter (· = (.scalar '\n'))).length + 1

/-- The column of a position, counted from one. -/
def columnOf (t : Text) (position : Nat) : Nat :=
  ((t.take position).reverse.takeWhile (· ≠ (.scalar '\n'))).length + 1

/-- The message for a failed reading of `t`. -/
def ReadError.message (t : Text) : ReadError → String
  | .malformed problem position =>
    s!"{problem.words}: line {lineOf t position} column {columnOf t position} (char {position})"
  | .tooManyDigits count => Number.tooManyDigitsMessage count
  | .tooDeep .array =>
    "maximum recursion depth exceeded while decoding a JSON array from a unicode string"
  | .tooDeep .object =>
    "maximum recursion depth exceeded while decoding a JSON object from a unicode string"

end ScriptVet.Json
