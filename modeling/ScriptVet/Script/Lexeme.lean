import ScriptVet.Script.Cursor
import ScriptVet.Script.Tree
import ScriptVet.Number.Literal

/-!
# Lexemes

Names, numbers, strings and regular expressions, each read from the first character of the token.
A reader gives the cursor behind the lexeme, or nothing when no such lexeme starts here.
-/

namespace ScriptVet.Script

open Number (isHex)

namespace Cursor

/-! ## Names -/

/-- Moves over an escape inside a name: `\uXXXX` or `\u` with digits in braces. -/
def skipNameEscape (c : Cursor) : Option Cursor :=
  match c.rest with
  | '\\' :: 'u' :: '{' :: r =>
    let digits := (c.advance 3).skipWhile isHex
    if (r.head?.map isHex).getD false && digits.rest.head? = some '}' then some digits.next else none
  | '\\' :: 'u' :: a :: b :: x :: d :: _ =>
    if [a, b, x, d].all isHex then some (c.advance 6) else none
  | _ => none

/-- Moves over the characters of a name. -/
def skipName (c : Cursor) : Cursor :=
  go c.left c
where
  go : Nat → Cursor → Cursor
    | 0, c => c
    | fuel + 1, c =>
      let c := c.skipWhile isNamePart
      match c.skipNameEscape with
      | some c => go fuel c
      | none => c

/-- The characters from `c` up to a later cursor. -/
def upTo (c stop : Cursor) : List Char := c.rest.take (stop.pos - c.pos)

/-- A name: its characters as written and the cursor behind it. -/
def name? (c : Cursor) : Option (List Char × Cursor) :=
  match c.rest with
  | x :: _ =>
    if isNameStart x then
      let stop := c.skipName
      some (c.upTo stop, stop)
    else if x = '\\' then
      match c.skipNameEscape with
      | some first =>
        let stop := first.skipName
        some (c.upTo stop, stop)
      | none => none
    else none
  | [] => none

/-- A name behind `#`. -/
def privateName? (c : Cursor) : Option Cursor :=
  match c.rest with
  | '#' :: _ => c.next.name?.map Prod.snd
  | _ => none

/-! ## Numbers -/

/-- Moves over digits between which single underscores may stand. At least one digit is needed. -/
def digits? (isDigit : Char → Bool) (c : Cursor) : Option Cursor :=
  match c.rest with
  | x :: _ => if isDigit x then some (go c.left c.next) else none
  | [] => none
where
  go : Nat → Cursor → Cursor
    | 0, c => c
    | fuel + 1, c =>
      match c.rest with
      | '_' :: y :: _ => if isDigit y then go fuel (c.advance 2) else c
      | x :: _ => if isDigit x then go fuel c.next else c
      | [] => c

/-- Moves over the mark of a big integer. -/
def skipBigMark (c : Cursor) : Cursor := if c.rest.head? = some 'n' then c.next else c

/-- Moves over an exponent, when one follows. -/
def skipExponent (c : Cursor) : Cursor :=
  match c.rest with
  | 'e' :: s :: _ | 'E' :: s :: _ =>
    (digits? isDigit (if s = '+' || s = '-' then c.advance 2 else c.next)).getD c
  | _ => c

/-- A digit run that a point or an exponent may follow: it has no leading zeros beyond one, and no
underscore behind that one. -/
def takesPoint : List Char → Bool
  | ['0'] => true
  | '0' :: x :: _ => isDigit x && x ≠ '0'
  | x :: _ => isDigit x
  | [] => false

/-- A number that starts with a digit or with a point and a digit. -/
def number? (c : Cursor) : Option Cursor :=
  let based (isBaseDigit : Char → Bool) : Option Cursor :=
    -- without a digit of the base the zero stands alone
    some <| ((c.advance 2).digits? isBaseDigit).elim c.next skipBigMark
  match c.rest with
  | '0' :: 'x' :: _ | '0' :: 'X' :: _ => based isHex
  | '0' :: 'b' :: _ | '0' :: 'B' :: _ => based fun x => x = '0' || x = '1'
  | '0' :: 'o' :: _ | '0' :: 'O' :: _ => based fun x => '0' ≤ x && x ≤ '7'
  | '.' :: _ => (c.next.digits? isDigit).map skipExponent
  | _ => do
    let stop ← c.digits? isDigit
    if takesPoint (c.upTo stop) then
      match stop.rest with
      | '.' :: _ => return ((stop.next.digits? isDigit).getD stop.next).skipExponent
      | 'n' :: _ => return stop.next
      | _ => return stop.skipExponent
    else return stop.skipBigMark

/-! ## Strings -/

/-- Moves over an escape sequence: a backslash with two hexadecimal digits behind `x`, four behind
`u`, any number of them in braces, up to three octal digits, or any other character. A carriage
return takes the line feed behind it along, and so does a question mark. -/
def skipEscape (c : Cursor) : Option Cursor :=
  match c.rest with
  | '\\' :: 'x' :: a :: b :: _ => if isHex a && isHex b then some (c.advance 4) else none
  | '\\' :: 'x' :: _ => none
  | '\\' :: 'u' :: _ => c.skipNameEscape
  | '\\' :: x :: r =>
    if isOctal x then
      some (c.advance (2 + ((r.take 2).takeWhile isOctal).length))
    else if (x = '\r' || x = '?') && (r.head?.map isLineEnd).getD false then some (c.advance 3)
    else some (c.advance 2)
  | _ => none
where
  isOctal (x : Char) : Bool := '0' ≤ x && x ≤ '7'

/-- A leaf between two cursors. -/
def leaf (kind : Kind) (start stop : Cursor) : Node := .mk kind none ⟨start.pos, stop.pos⟩ []

/-- The pieces of a string up to its closing quote, last piece first. A line may end inside a string
only where nothing but blanks and comments stand before what follows it. -/
def stringPieces (quote : Char) : Nat → List Node → Cursor → Option (List Node × Cursor)
  | 0, _, _ => none
  | fuel + 1, done, c =>
    match c.rest with
    | [] => none
    | '\\' :: _ => do
      let stop ← c.skipEscape
      stringPieces quote fuel (leaf .escapeSequence c stop :: done) stop
    | x :: _ =>
      if x = quote then some (done, c.next)
      else if x = '\n' || x = '\r' then
        let c := c.skipWhile isBlank
        if c.rest.head? = some quote then some (done, c.next)
        else c.skipComment.bind (stringPieces quote fuel done)
      else
        let stop := c.skipWhile fun y => y ≠ quote && y ≠ '\\' && y ≠ '\n' && y ≠ '\r'
        stringPieces quote fuel (leaf .stringFragment c stop :: done) stop

/-- A string between single or double quotes. -/
def string? (c : Cursor) : Option (Node × Cursor) :=
  match c.rest with
  | x :: _ =>
    if x = '"' || x = '\'' then do
      let (pieces, stop) ← stringPieces x (c.left + 1) [] c.next
      return (.mk .string none ⟨c.pos, stop.pos⟩ pieces.reverse, stop)
    else none
  | [] => none

/-! ## Regular expressions -/

/-- Moves over a character set of a regular expression, behind its opening bracket. -/
def skipRegexSet (c : Cursor) : Option Cursor :=
  go c.left c
where
  go : Nat → Cursor → Option Cursor
    | 0, _ => none
    | fuel + 1, c =>
      match c.rest with
      | ']' :: _ => some c.next
      | '\\' :: '\n' :: _ | '\n' :: _ | ['\\'] | [] => none
      | '\\' :: _ => go fuel (c.advance 2)
      | _ => go fuel c.next

/-- Moves to the slash that closes a regular expression. -/
def skipRegexBody (c : Cursor) : Option Cursor :=
  go c.left c
where
  go : Nat → Cursor → Option Cursor
    | 0, _ => none
    | fuel + 1, c =>
      match c.rest with
      | '/' :: _ => some c
      | '\\' :: '\n' :: _ | '\n' :: _ | ['\\'] | [] => none
      | '\\' :: _ => go fuel (c.advance 2)
      | '[' :: _ => c.next.skipRegexSet.bind (go fuel)
      | _ => go fuel c.next

/-- A regular expression between slashes and its flags. -/
def regex? (c : Cursor) : Option (Node × Cursor) :=
  match c.rest with
  | '/' :: '/' :: _ | '/' :: '*' :: _ => none
  | '/' :: _ => do
    let stop ← c.next.skipRegexBody
    let stop := stop.next.skipWhile fun x => 'a' ≤ x && x ≤ 'z'
    return (leaf .regex c stop, stop)
  | _ => none

/-! ## Templates -/

/-- Moves over template text up to a quote, a backslash or a substitution. -/
def skipTemplateText (c : Cursor) : Cursor :=
  go c.pos c.left c.rest
where
  go (pos left : Nat) : List Char → Cursor
    | '$' :: '{' :: r => ⟨pos, left, '$' :: '{' :: r⟩
    | x :: r =>
      if x = '`' || x = '\\' then ⟨pos, left, x :: r⟩ else go (pos + 1) (left - 1) r
    | [] => ⟨pos, left, []⟩

end Cursor

end ScriptVet.Script
