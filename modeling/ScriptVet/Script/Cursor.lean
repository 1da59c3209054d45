import ScriptVet.Script.Chars

/-!
# Cursors

A cursor is a place in a script: how many characters lie before it and what follows. It also knows how
many characters follow, which bounds every loop that moves it.

Between two tokens may stand blanks and comments. A comment runs from `//` to the end of the line or
from `/*` to `*/`; where no operator may stand, `<!--` and `-->` start a comment to the end of the
line too.
-/

namespace ScriptVet.Script

/-- A place in a script. -/
structure Cursor where
  pos : Nat
  left : Nat
  rest : List Char
  deriving Inhabited

namespace Cursor

/-- The start of a script. -/
def start (cs : List Char) : Cursor := ⟨0, cs.length, cs⟩

/-- Moves over one character. -/
def next : Cursor → Cursor
  | ⟨p, l, _ :: r⟩ => ⟨p + 1, l - 1, r⟩
  | c => c

/-- Moves over `n` characters. -/
def advance : Nat → Cursor → Cursor
  | 0, c => c
  | n + 1, c => advance n c.next

/-- Nothing follows. -/
def atEnd (c : Cursor) : Bool := c.rest.isEmpty

/-- The characters of a string follow. -/
def looksAt (c : Cursor) (s : List Char) : Bool := s.isPrefixOf c.rest

/-- Moves over the characters that satisfy `p`. -/
def skipWhile (p : Char → Bool) (c : Cursor) : Cursor :=
  go c.pos c.left c.rest
where
  go (pos left : Nat) : List Char → Cursor
    | [] => ⟨pos, left, []⟩
    | x :: r => if p x then go (pos + 1) (left - 1) r else ⟨pos, left, x :: r⟩

/-- Moves behind the next `*/`, and tells whether a line ended on the way. -/
def skipBlockComment (c : Cursor) : Option (Bool × Cursor) :=
  go false c.pos c.left c.rest
where
  go (broken : Bool) (pos left : Nat) : List Char → Option (Bool × Cursor)
    | '*' :: '/' :: r => some (broken, ⟨pos + 2, left - 2, r⟩)
    | x :: r => go (broken || isLineEnd x) (pos + 1) (left - 1) r
    | [] => none

/-- Moves over one comment, when one starts here. -/
def skipComment (c : Cursor) : Option Cursor :=
  match c.rest with
  | '/' :: '/' :: _ => some (c.skipWhile fun x => !endsComment x)
  | '/' :: '*' :: _ => (c.advance 2).skipBlockComment.map Prod.snd
  | _ => none

/-- Moves over one comment that starts with a markup mark. -/
def skipMarkupComment (c : Cursor) : Option Cursor :=
  match c.rest with
  | '<' :: '!' :: '-' :: '-' :: _ => some (c.skipWhile fun x => !isLineEnd x)
  | '-' :: '-' :: '>' :: _ => some (c.skipWhile fun x => !isLineEnd x)
  | _ => none

/-- Moves to the next token. `markup` tells whether the comments with a markup mark count. -/
def skipBlanks (markup : Bool) (c : Cursor) : Cursor :=
  go c.left c
where
  go : Nat → Cursor → Cursor
    | 0, c => c
    | fuel + 1, c =>
      let c := c.skipWhile isBlank
      match c.skipComment with
      | some c => go fuel c
      | none =>
        match if markup then c.skipMarkupComment else none with
        | some c => go fuel c
        | none => c

/-- The next token where an operand or a statement may start. -/
def operand (c : Cursor) : Cursor := c.skipBlanks true

/-- The next token where an operator may stand. -/
def operator (c : Cursor) : Cursor := c.skipBlanks false

end Cursor

end ScriptVet.Script
