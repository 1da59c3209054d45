import ScriptVet.Number.Literal
import ScriptVet.Text.Quoted

/-!
# The path of a URL

A URL is cut at its separators: a host, a path, and perhaps a query or a fragment. A host may stand in brackets, and
then it has to be an address of version six or of a later one. A URL with another host in brackets, or with one bracket
only, has no path.
-/

namespace ScriptVet.Url

/-- Why a URL has no path. -/
inductive Error where
  /-- A bracket is without its partner. -/
  | unbalanced
  /-- The address of a later version has another form. -/
  | badFuture
  /-- The address in brackets is of version four. -/
  | versionFour
  /-- The text in brackets is no address. -/
  | noAddress (t : Text)
  deriving DecidableEq

/-- The message about a URL without a path. -/
def Error.message : Error → Text
  | unbalanced => "Invalid IPv6 URL"
  | badFuture => "IPvFuture address is invalid"
  | versionFour => "An IPv4 address cannot be in brackets"
  | noAddress t => t.quoted ++ Text.ofString " does not appear to be an IPv4 or IPv6 address"

/-! ## Addresses -/

/-- Splits characters at a separator. -/
def splitAt (separator : Char) : List Char → List (List Char)
  | [] => [[]]
  | c :: cs =>
    match splitAt separator cs with
    | piece :: pieces => if c = separator then [] :: piece :: pieces else (c :: piece) :: pieces
    | [] => [[c]]

/-- A number up to 255 without zeros in front. -/
def isOctet (cs : List Char) : Bool :=
  !cs.isEmpty && cs.length ≤ 3 && cs.all Char.isDigit && (cs.length = 1 || cs.head? ≠ some '0') &&
    Number.ofDecimal cs ≤ 255

/-- An address of version four: four numbers with points between them. -/
def isVersionFour (cs : List Char) : Bool :=
  let parts := splitAt '.' cs
  parts.length = 4 && parts.all isOctet

/-- One to four hexadecimal digits. -/
def isHextet (cs : List Char) : Bool := !cs.isEmpty && cs.length ≤ 4 && cs.all Number.isHex

/-- The groups of an address, where one of version four at the end stands for two. -/
def groups? (cs : List Char) : Option (List (List Char)) :=
  let parts := splitAt ':' cs
  match parts.getLast? with
  | some last =>
    if parts.length < 3 then none
    else if !last.contains '.' then some parts
    else if isVersionFour last then some (parts.dropLast ++ [['0'], ['0']]) else none
  | none => none

/-- One side of the gap in an address is a list of groups, or nothing, whose colon then stands alone. -/
def side? (parts : List (List Char)) : Option (List (List Char)) :=
  if parts = [[]] then some [] else if parts.all isHextet then some parts else none

/-- An address of version six without its zone: eight groups with colons between them, or fewer with one gap. -/
def isUnzoned (cs : List Char) : Bool :=
  match groups? cs with
  | none => false
  | some parts =>
    match ((parts.drop 1).dropLast.filter List.isEmpty).length with
    | 0 => parts.length = 8 && parts.all isHextet
    | 1 =>
      let gap := ((parts.drop 1).takeWhile fun p => !p.isEmpty).length + 1
      match side? (parts.take gap), side? (parts.drop (gap + 1)) with
      | some high, some low => parts.length ≤ 9 && high.length + low.length ≤ 7
      | _, _ => false
    | _ => false

/-- An address of version six, perhaps with its zone. -/
def isVersionSix (cs : List Char) : Bool :=
  match splitAt '%' cs with
  | [address] => isUnzoned address
  | [address, zone] => !zone.isEmpty && isUnzoned address
  | _ => false

/-- An address of a later version: its number in hexadecimal digits, a point, and anything. -/
def isFuture (cs : List Char) : Bool :=
  let digits := cs.takeWhile Number.isHex
  let rest := cs.drop digits.length
  !digits.isEmpty && rest.head? = some '.' && 2 ≤ rest.length

/-! ## URLs -/

/-- Checks what stands in the brackets of a host. -/
def checkBracketed (t : Text) : Except Error Unit :=
  match t.scalars? with
  | none => .error (.noAddress t)
  | some ('v' :: cs) => if isFuture cs then .ok () else .error .badFuture
  | some cs =>
    if isVersionFour cs then .error .versionFour
    else if isVersionSix cs then .ok () else .error (.noAddress t)

/-- Checks the brackets of a host. -/
def checkHost (host : Text) : Except Error Unit :=
  match host.contains (.scalar '['), host.contains (.scalar ']') with
  | false, false => .ok ()
  | true, true =>
    checkBracketed (((host.dropWhile (· ≠ (.scalar '['))).drop 1).takeWhile (· ≠ (.scalar ']')))
  | _, _ => .error .unbalanced

/-- The code point separates the path of a URL from what follows it. -/
def endsPath (p : CodePoint) : Bool := p = .scalar '?' || p = .scalar '#'

/-- The code point separates the host of a URL from what follows it. -/
def endsHost (p : CodePoint) : Bool := p = .scalar '/' || endsPath p

/-- The code point is left out of a URL. -/
def isDropped (p : CodePoint) : Bool := p = .scalar '\t' || p = .scalar '\n' || p = .scalar '\r'

/-- The path of a URL that is given from its host on. -/
def path (url : Text) : Except Error Text :=
  let url := url.filter fun p => !isDropped p
  let host := url.takeWhile fun p => !endsHost p
  match checkHost host with
  | .error e => .error e
  | .ok () => .ok ((url.drop host.length).takeWhile fun p => !endsPath p)

end ScriptVet.Url
