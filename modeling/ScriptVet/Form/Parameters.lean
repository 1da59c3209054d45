import ScriptVet.Number.Literal
import ScriptVet.Text.Blank

/-!
# Parameters of a header

A header such as `form-data; name="script"` has a value and parameters, separated by semicolons outside
quotes. The name of a parameter is read in lower case. A parameter may come in numbered pieces (`name*0`,
`name*1`), and a piece whose name ends in a star is percent-encoded.
-/

namespace ScriptVet.Form

/-- A character as it is compared with white space. -/
def isSpace (c : Char) : Bool := (CodePoint.scalar c).isSpace

/-- Characters without the white space at their ends. -/
def strip (cs : List Char) : List Char := ((cs.dropWhile isSpace).reverse.dropWhile isSpace).reverse

/-- Splits at semicolons. Behind an odd number of quotes a semicolon does not count, and a quote behind a
backslash is none. -/
def splitParameters : List Char → (piece : List Char) → (quoted : Bool) → List (List Char)
  | [], piece, _ => [piece.reverse]
  | c :: rest, piece, quoted =>
    if c = ';' && !quoted then piece.reverse :: splitParameters rest [] false
    else
      let turns := c = '"' && piece.head? ≠ some '\\'
      splitParameters rest (c :: piece) (if turns then !quoted else quoted)

/-- The name and the value of a parameter. One without an equals sign has an empty value and keeps the case of
its name. -/
def nameAndValue (piece : List Char) : List Char × List Char :=
  if piece.contains '=' then
    (strip ((piece.takeWhile (· ≠ '=')).map Char.toLower), strip ((piece.dropWhile (· ≠ '=')).drop 1))
  else (strip piece, [])

/-- Takes one backslash of each pair away. -/
def unescapeBackslashes : List Char → List Char
  | '\\' :: '\\' :: rest => '\\' :: unescapeBackslashes rest
  | c :: rest => c :: unescapeBackslashes rest
  | [] => []

/-- Takes the backslash before each quote away. -/
def unescapeQuotes : List Char → List Char
  | '\\' :: '"' :: rest => '"' :: unescapeQuotes rest
  | c :: rest => c :: unescapeQuotes rest
  | [] => []

/-- A value without the quotes or angle brackets around it. -/
def unquote (value : List Char) : List Char :=
  match value, value.getLast? with
  | '"' :: c :: rest, some '"' => unescapeQuotes (unescapeBackslashes (c :: rest).dropLast)
  | '<' :: c :: rest, some '>' => (c :: rest).dropLast
  | _, _ => value

/-- Decodes characters behind those in `done`, which are decoded and stand last one first. -/
def percentDecodeFrom (done : List Char) : List Char → List Char
  | '%' :: a :: b :: rest =>
    match Number.hexDigit? a, Number.hexDigit? b with
    | some x, some y => percentDecodeFrom (Char.ofNat (16 * x + y) :: done) rest
    | _, _ => percentDecodeFrom ('%' :: done) (a :: b :: rest)
  | c :: rest => percentDecodeFrom (c :: done) rest
  | [] => done.reverse

/-- Replaces each percent sign and two hexadecimal digits by the character they number. -/
def percentDecode (cs : List Char) : List Char := percentDecodeFrom [] cs

/-- A piece of a parameter: its number, when it has one, its value, and whether it is percent-encoded. -/
structure Piece where
  number : Option Nat
  value : List Char
  encoded : Bool

/-- A character of the name of a parameter in pieces. -/
def isWord (c : Char) : Bool := c.isAlphanum || c = '_'

/-- Reads `name*`, `name*0` or `name*0*` as the name of a piece. -/
def pieceName? (name : List Char) : Option (List Char × Option Nat × Bool) :=
  let word := name.takeWhile isWord
  match word, name.drop word.length with
  | [], _ => none
  | _, ['*'] => some (word, none, true)
  | _, '*' :: rest =>
    let digits := rest.takeWhile Char.isDigit
    match digits, rest.drop digits.length with
    | [], _ => none
    | _, [] => some (word, some (Number.ofDecimal digits), false)
    | _, ['*'] => some (word, some (Number.ofDecimal digits), true)
    | _, _ => none
  | _, _ => none

/-- The order of values, character by character. -/
def valueBefore (a b : List Char) : Bool := !List.lex b a fun x y => x.toNat < y.toNat

/-- The order of pieces: by number, then by value. -/
def Piece.before (a b : Piece) : Bool :=
  match a.number, b.number with
  | none, some _ => true
  | some _, none => false
  | some m, some n => if m = n then valueBefore a.value b.value else m < n
  | none, none => valueBefore a.value b.value

/-- The value that pieces make together. When a piece is encoded, a character set and a language stand in
front, each followed by a tick. -/
def joinPieces (pieces : List Piece) : List Char :=
  let joined := (pieces.mergeSort Piece.before).flatMap fun p => if p.encoded then percentDecode p.value else p.value
  if pieces.any Piece.encoded then
    let behindTick (cs : List Char) : List Char := (cs.dropWhile (· ≠ '\'')).drop 1
    if 2 ≤ joined.count '\'' then behindTick (behindTick joined) else joined
  else joined

/-- Adds a piece to the pieces of its parameter. -/
def addPiece (name : List Char) (p : Piece) : List (List Char × List Piece) → List (List Char × List Piece)
  | [] => [(name, [p])]
  | (n, ps) :: rest => if n = name then (n, ps ++ [p]) :: rest else (n, ps) :: addPiece name p rest

/-- A header: its value and its parameters. A later parameter counts before an earlier one of the same name, and
one in pieces before any other. -/
structure Header where
  value : List Char
  parameters : List (List Char × List Char)

namespace Header

/-- The whole parameters among named values, and those in pieces. -/
def sortOut (named : List (List Char × List Char)) : List (List Char × List Char) × List (List Char × List Piece) :=
  named.foldl (fun (whole, pieces) (name, value) =>
    match pieceName? name with
    | some (word, number, encoded) => (whole, addPiece word ⟨number, unquote value, encoded⟩ pieces)
    | none => (whole ++ [(name, unquote value)], pieces)) ([], [])

/-- Reads a header. Without a semicolon it is all value, in lower case. -/
def parse (cs : List Char) : Header :=
  if !cs.contains ';' then ⟨strip (cs.map Char.toLower), []⟩
  else
    match (splitParameters cs [] false).map nameAndValue with
    | [] => ⟨[], []⟩
    | (value, _) :: named =>
      let (whole, pieces) := sortOut named
      ⟨value, whole ++ pieces.map fun (name, ps) => (name, joinPieces ps)⟩

/-- The value of a parameter. -/
def parameter? (h : Header) (name : String) : Option (List Char) :=
  (h.parameters.reverse.find? fun (n, _) => n = name.toList).map Prod.snd

end Header

end ScriptVet.Form
