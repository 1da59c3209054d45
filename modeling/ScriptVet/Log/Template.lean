import ScriptVet.Json.Plain
import ScriptVet.Number.Binary64
import ScriptVet.Number.Rounded

/-!
# Message templates

A message may be a template with directives, such as `%s` for a text and `%05d` for a number of five digits. Its
arguments come as a list, taken in order, or by name. A directive has flags, a width, a precision and a conversion.
-/

namespace ScriptVet.Log

/-- The arguments of a template. -/
inductive Arguments where
  | list (values : List Json)
  | named (members : List (Text × Json))

/-- A measure of what a directive writes. -/
inductive Measure where
  | width
  | precision

/-- A measure fits into a signed word of so many bits. -/
def Measure.bits : Measure → Nat
  | width => 64
  | precision => 32

/-- Why a template cannot be filled. -/
inductive TemplateError where
  | mappingWanted
  | incompleteKey
  | unknownKey (key : Text)
  | measureWanted
  /-- A measure is too large in the template. -/
  | measureTooBig (m : Measure)
  /-- A measure is too large among the arguments. -/
  | measureRange (m : Measure)
  | incomplete
  | tooFewArguments
  | tooManyArguments
  | integerWanted (conversion : CodePoint) (kind : String)
  | numberWanted (conversion : CodePoint) (kind : String)
  | realWanted (kind : String)
  | characterWanted
  | characterRange
  | unknownConversion (conversion : CodePoint) (position : Nat)
  | notANumber
  | overflow (e : Number.OverflowError)
  /-- An integer has more digits than are written. -/
  | tooManyDigits

/-- The message about a template that cannot be filled. -/
def TemplateError.message : TemplateError → Text
  | mappingWanted => "format requires a mapping"
  | incompleteKey => "incomplete format key"
  | unknownKey key => key.quoted
  | measureWanted => "* wants int"
  | measureTooBig .width => "width too big"
  | measureTooBig .precision => "precision too big"
  | measureRange .width => "Python int too large to convert to C ssize_t"
  | measureRange .precision => "Python int too large to convert to C int"
  | incomplete => "incomplete format"
  | tooFewArguments => "not enough arguments for format string"
  | tooManyArguments => "not all arguments converted during string formatting"
  | integerWanted c kind => [.scalar '%', c] ++ Text.ofString s!" format: an integer is required, not {kind}"
  | numberWanted c kind => [.scalar '%', c] ++ Text.ofString s!" format: a real number is required, not {kind}"
  | realWanted kind => s!"must be real number, not {kind}"
  | characterWanted => "%c requires int or char"
  | characterRange => "%c arg not in range(0x110000)"
  | unknownConversion c position =>
    let shown := if 31 ≤ c.toNat && c.toNat ≤ 126 then c else .scalar '?'
    Text.ofString "unsupported format character '" ++ [shown] ++
      Text.ofString s!"' (0x{Text.hex 1 c.toNat}) at index {position}"
  | notANumber => "cannot convert float NaN to integer"
  | overflow e => e.message
  | tooManyDigits => Number.overlongMessage

/-! ## Directives -/

/-- The flags of a directive. -/
structure Flags where
  left : Bool := false
  plus : Bool := false
  blank : Bool := false
  alternate : Bool := false
  zero : Bool := false

/-- A directive of a template with its measures. -/
structure Directive where
  flags : Flags := {}
  width : Option Int := none
  precision : Option Int := none
  conversion : CodePoint

/-! ## Arguments -/

/-- The arguments that are left: a list, or one value that stands for itself. -/
structure Supply where
  values : List Json
  named : Option (List (Text × Json))

/-- The arguments of a template at its start. Named arguments are also one value. -/
def Supply.ofArguments : Arguments → Supply
  | .list values => ⟨values, none⟩
  | .named members => ⟨[.obj members], some members⟩

/-- Takes the next argument. -/
def Supply.next (s : Supply) : Except TemplateError (Json × Supply) :=
  match s.values with
  | [] => .error .tooFewArguments
  | v :: rest => .ok (v, { s with values := rest })

/-- Takes an argument for a measure. -/
def Supply.measure (s : Supply) (m : Measure) : Except TemplateError (Int × Supply) := do
  let (v, s) ← s.next
  match v with
  | .int n => if Number.fitsWord m.bits n then return (n, s) else throw (.measureRange m)
  | .bool b => return (if b then 1 else 0, s)
  | _ => throw .measureWanted

/-! ## Reading directives -/

/-- Reads a key up to the bracket that closes it, where `depth` brackets are open inside. -/
def readKey (done : Text) : (depth : Nat) → Text → Option (Text × Text)
  | _, [] => none
  | depth, p :: rest =>
    if p = .scalar ')' then
      match depth with
      | 0 => some (done.reverse, rest)
      | depth + 1 => readKey (p :: done) depth rest
    else readKey (p :: done) (if p = .scalar '(' then depth + 1 else depth) rest

/-- Reads flags. -/
def readFlags (f : Flags) : Text → Flags × Text
  | .scalar '-' :: rest => readFlags { f with left := true } rest
  | .scalar '+' :: rest => readFlags { f with plus := true } rest
  | .scalar ' ' :: rest => readFlags { f with blank := true } rest
  | .scalar '#' :: rest => readFlags { f with alternate := true } rest
  | .scalar '0' :: rest => readFlags { f with zero := true } rest
  | t => (f, t)

/-- A decimal digit of ASCII. -/
def isDigit (p : CodePoint) : Bool := p.scalar?.any Char.isDigit

/-- Reads a measure, when there is one: a number, or a star for the next argument. -/
def readMeasure (m : Measure) (s : Supply) (t : Text) : Except TemplateError (Option Int × Supply × Text) :=
  match t with
  | .scalar '*' :: rest => do
    let (n, s) ← s.measure m
    return (some n, s, rest)
  | _ =>
    let digits := t.takeWhile isDigit
    let n := Number.ofDecimal (digits.filterMap CodePoint.scalar?)
    if digits.isEmpty then .ok (none, s, t)
    else if Number.fitsWord m.bits n then .ok (some (n : Int), s, t.drop digits.length)
    else .error (.measureTooBig m)

/-- Reads the key of a directive, when there is one. Its argument is then the only one that is left. -/
def readNamed (s : Supply) (t : Text) : Except TemplateError (Supply × Text) :=
  match t with
  | .scalar '(' :: rest =>
    match s.named, readKey [] 0 rest with
    | none, _ => .error .mappingWanted
    | some _, none => .error .incompleteKey
    | some members, some (key, rest) =>
      match Json.lookup key members with
      | none => .error (.unknownKey key)
      | some v => .ok ({ s with values := [v] }, rest)
  | _ => .ok (s, t)

/-- Reads a directive behind its percent sign. A precision without a number is zero, and a letter for the size of an
argument is passed over. -/
def readDirective (s : Supply) (t : Text) : Except TemplateError (Directive × Supply × Text) := do
  let (s, t) ← readNamed s t
  let (flags, t) := readFlags {} t
  let (width, s, t) ← readMeasure .width s t
  let (precision, s, t) ← match t with
    | .scalar '.' :: rest => (readMeasure .precision s rest).map fun (p, s, t) => (some (p.getD 0), s, t)
    | _ => .ok (none, s, t)
  let t := match t with
    | .scalar 'h' :: rest | .scalar 'l' :: rest | .scalar 'L' :: rest => rest
    | _ => t
  match t with
  | [] => throw .incomplete
  | conversion :: rest => return ({ flags, width, precision, conversion }, s, rest)

/-! ## Conversions -/

/-- A text padded with spaces. -/
def pad (left : Bool) (width : Nat) (t : Text) : Text :=
  let space := List.replicate (width - t.length) (CodePoint.scalar ' ')
  if left then t ++ space else space ++ t

/-- A number with its sign, a mark and its digits, padded with spaces around or zeros inside. -/
def padNumber (f : Flags) (width : Nat) (negative : Bool) (mark digits : String) : Text :=
  let sign := if negative then "-" else if f.plus then "+" else if f.blank then " " else ""
  let size := sign.length + mark.length + digits.length
  let zeros := if f.zero && !f.left then List.replicate (width - size) '0' else []
  pad f.left width (Text.ofString (sign ++ mark ++ String.ofList zeros ++ digits))

/-- The digits of a number in a base, at least `least` of them. -/
def digitsIn (base least n : Nat) : String :=
  let digits := Nat.toDigits base n
  String.ofList (List.replicate (least - digits.length) '0' ++ digits)

/-- The integer that a number is, without its fraction. -/
def truncated (x : Float) : Except TemplateError Int :=
  match Number.Parts.ofFloat x with
  | .zero _ => .ok 0
  | .finite negative mantissa power =>
    let n : Int := Number.wholePart mantissa power
    .ok (if negative then -n else n)
  | .infinite _ => .error (.overflow .infinite)
  | .notANumber => .error .notANumber

/-- The integer of an argument. Only a decimal takes a number with a fraction. -/
def integerOf (conversion : CodePoint) (decimal : Bool) (v : Json) : Except TemplateError Int :=
  match v with
  | .int n => .ok n
  | .bool b => .ok (if b then 1 else 0)
  | .float x => if decimal then truncated x else .error (.integerWanted conversion v.kindName)
  | v => .error (if decimal then .numberWanted conversion v.kindName else .integerWanted conversion v.kindName)

/-- The double of an argument. -/
def doubleOf (v : Json) : Except TemplateError Float :=
  match v with
  | .float x => .ok x
  | .bool b => .ok (if b then 1 else 0)
  | .int n =>
    match Number.Scaled.ofNat n.natAbs with
    | .error e => .error (.overflow e)
    | .ok _ =>
      let x := Number.nearest n.natAbs 0
      .ok (if n < 0 then -x else x)
  | v => .error (.realWanted v.kindName)

/-- The character of an argument: a number, or a text of one. -/
def characterOf (v : Json) : Except TemplateError CodePoint :=
  let ofNumber (n : Int) : Except TemplateError CodePoint :=
    if 0 ≤ n && n < 0x110000 then .ok (.ofNat n.toNat) else .error .characterRange
  match v with
  | .str [p] => .ok p
  | .int n => ofNumber n
  | .bool b => ofNumber (if b then 1 else 0)
  | _ => .error .characterWanted

/-- An integer in a base, with a mark for the base when the flags ask for one. -/
def convertInteger (d : Directive) (width : Nat) (precision : Option Nat) (base : Nat) (mark : String) (upper : Bool)
    (v : Json) : Except TemplateError Text := do
  let n ← integerOf d.conversion (base = 10) v
  if base = 10 && Number.isOverlong n then throw .tooManyDigits
  let digits := digitsIn base (precision.getD 0) n.natAbs
  let mark := if d.flags.alternate then mark else ""
  return padNumber d.flags width (n < 0) mark (if upper then digits.toUpper else digits)

/-- A double in a form. -/
def convertDouble (d : Directive) (width : Nat) (precision : Option Nat) (style : Number.PlacesStyle) (upper : Bool)
    (v : Json) : Except TemplateError Text := do
  let x ← doubleOf v
  let s := Number.writePlaces ⟨d.flags.alternate, upper⟩ style (precision.getD 6) x
  let negative := s.startsWith "-"
  return padNumber d.flags width negative "" (if negative then String.ofList (s.toList.drop 1) else s)

/-- A text, cut to the precision. -/
def convertText (d : Directive) (width : Nat) (precision : Option Nat) (t : Text) : Text :=
  pad d.flags.left width (match precision with
    | some n => t.take n
    | none => t)

/-- A value in words. Its integers are written in decimal. -/
def inWords (words : Json → Text) (v : Json) : Except TemplateError Text :=
  if v.integers.any Number.isOverlong then .error .tooManyDigits else .ok (words v)

/-- What a directive makes of an argument. -/
def convert (d : Directive) (width : Nat) (precision : Option Nat) (position : Nat) (v : Json) :
    Except TemplateError Text :=
  match d.conversion with
  | .scalar 's' => (inWords Json.plain v).map (convertText d width precision)
  | .scalar 'r' => (inWords Json.shown v).map (convertText d width precision)
  | .scalar 'a' => (inWords Json.shownAscii v).map (convertText d width precision)
  | .scalar 'd' | .scalar 'i' | .scalar 'u' => convertInteger d width precision 10 "" false v
  | .scalar 'o' => convertInteger d width precision 8 "0o" false v
  | .scalar 'x' => convertInteger d width precision 16 "0x" false v
  | .scalar 'X' => convertInteger d width precision 16 "0X" true v
  | .scalar 'e' => convertDouble d width precision .scientific false v
  | .scalar 'E' => convertDouble d width precision .scientific true v
  | .scalar 'f' => convertDouble d width precision .fixed false v
  | .scalar 'F' => convertDouble d width precision .fixed true v
  | .scalar 'g' => convertDouble d width precision .general false v
  | .scalar 'G' => convertDouble d width precision .general true v
  | .scalar 'c' => (characterOf v).map fun p => pad d.flags.left width [p]
  | c => .error (.unknownConversion c position)

/-! ## Filling -/

/-- Fills the template that is left. `size` is the length of the whole, and each step makes what is left shorter. -/
def fillFrom (size : Nat) (done : Text) : (fuel : Nat) → Supply → Text → Except TemplateError Text
  | 0, _, _ => .ok done.reverse
  | fuel + 1, s, t =>
    match t with
    | [] => if s.named.isNone && !s.values.isEmpty then .error .tooManyArguments else .ok done.reverse
    | .scalar '%' :: .scalar '%' :: rest => fillFrom size (.scalar '%' :: done) fuel s rest
    | .scalar '%' :: rest => do
      let (d, s, rest) ← readDirective s rest
      let (v, s) ← s.next
      -- a width below zero is one to the left
      let left := d.flags.left || d.width.any (· < 0)
      let d := { d with flags := { d.flags with left } }
      let filled ← convert d ((d.width.map Int.natAbs).getD 0) (d.precision.map Int.toNat) (size - rest.length - 1) v
      fillFrom size (filled.reverse ++ done) fuel s rest
    | p :: rest => fillFrom size (p :: done) fuel s rest

/-- Fills a template. Without arguments a message is no template. -/
def fill (template : Text) (arguments : Arguments) : Except TemplateError Text :=
  let empty := match arguments with
    | .list values => values.isEmpty
    | .named members => members.isEmpty
  if empty then .ok template else fillFrom template.length [] (template.length + 1) (.ofArguments arguments) template

end ScriptVet.Log
