import ScriptVet.Script.Cursor
import ScriptVet.Script.Language

/-!
# Semicolons that may be left out

A statement may end without a semicolon before `}`, at the end of the script, or at the end of a
line. The end of a line counts only when the first character of the next token could not continue
what stands before it: no semicolon goes before `(`, before a binary operator, or before `in` and
`instanceof`, but one goes before `++`, `--` and a negation.

Whether a semicolon may be left out does not depend on what would happen without it: where one may
stand and the line ends, it stands.
-/

namespace ScriptVet.Script

/-- What may follow the place where a semicolon is looked for. -/
structure Ending where
  language : Language
  /-- A binary operator may follow, so an expression stands before. -/
  operator : Bool := true
  /-- A function body may follow, so a signature stands before. -/
  signature : Bool := false

/-- The result of passing over spaces and comments on the way to the next token. -/
inductive Passage where
  /-- A slash follows that starts no comment. -/
  | blocked
  /-- The next token, which stands on the same line as the comment before it. -/
  | inline (c : Cursor)
  /-- The next token. -/
  | clear (c : Cursor)

namespace Ending

/-- Passes over spaces and comments. With `whole` unset, the passage ends behind the first comment
between `/*` and `*/` that no other slash follows. -/
def pass (whole : Bool) : Nat → Bool → Cursor → Passage
  | 0, _, c => .clear c
  | fuel + 1, broken, c =>
    let c := c.skipWhile isSpace
    match c.rest with
    | '/' :: '/' :: _ => pass whole fuel broken (c.skipWhile fun x => !isLineEnd x)
    | '/' :: '*' :: _ =>
      match (c.advance 2).skipBlockComment with
      | none => .clear ⟨c.pos + c.left, 0, []⟩
      | some (ended, c) =>
        let broken := broken || ended
        if whole || c.rest.head? = some '/' then pass whole fuel broken c
        else if broken then .clear c else .inline c
    | '/' :: _ => .blocked
    | _ => .clear c

/-- The word `in` or `instanceof` follows: letters after it would make it another word. -/
def startsRelation : List Char → Bool
  | 'i' :: 'n' :: rest =>
    let letter : List Char → Bool
      | x :: _ => x.isAlpha || 0x7F < x.toNat
      | [] => false
    !letter rest || ("stanceof".toList.isPrefixOf rest && !letter (rest.drop 8))
  | _ => false

/-- A semicolon goes before a token on a new line that starts with these characters. -/
def goesBefore (e : Ending) : List Char → Bool
  | [] => true
  | c :: rest =>
    if ['`', ',', ':', ';', '*', '%', '>', '<', '=', '?', '^', '|', '&', '/'].contains c then false
    else
      match c with
      | '.' => e.language = .javascript && (rest.head?.map isDigit).getD false
      | '(' | '[' => e.language = .typescript && !e.operator
      | '{' => !(e.language = .typescript && e.signature)
      | '+' => rest.head? = some '+'
      | '-' => rest.head? = some '-'
      | '!' => rest.head? ≠ some '='
      | _ => !startsRelation (c :: rest)

/-- Decides at a line end: the next token is looked at. -/
def afterLine (e : Ending) (c : Cursor) : Bool :=
  match pass true (c.left + 1) false c with
  | .blocked => false
  | .inline c => e.goesBefore c.rest
  | .clear c => e.goesBefore c.rest

/-- A closing brace ends a statement, unless a type follows it. -/
def beforeBrace (e : Ending) (c : Cursor) : Bool :=
  e.language = .javascript || e.operator || (c.next.skipWhile isSpace).rest.head? ≠ some ':'

/-- Looks for the end of a statement from the end of its last token, comments left aside. -/
def fromHere (e : Ending) : Nat → Cursor → Bool
  | 0, _ => true
  | fuel + 1, c =>
    match c.rest with
    | [] => true
    | '}' :: _ => e.beforeBrace c
    | '/' :: _ =>
      if e.language = .typescript then false
      else
        match pass false (c.left + 1) false c with
        | .blocked => false
        | .inline c => plain fuel c
        | .clear c =>
          if !e.operator && c.rest.head? ≠ some ',' && c.rest.head? ≠ some '=' then true
          else plain fuel c
    | _ => plain fuel c
where
  /-- As `fromHere`, where a slash is no comment. -/
  plain (fuel : Nat) (c : Cursor) : Bool :=
    match c.rest with
    | [] => true
    | '}' :: _ => e.beforeBrace c
    | x :: _ =>
      if isLineEnd x then e.afterLine c.next
      else if isSpace x then fromHere e fuel c.next
      else false

/-- A semicolon may be left out here. A comment that stands in between is passed and the search goes
on behind it. -/
def omits (e : Ending) (c : Cursor) : Bool :=
  go (c.left + 1) c
where
  go : Nat → Cursor → Bool
    | 0, _ => false
    | fuel + 1, c =>
      e.fromHere (c.left + 1) c ||
        match (c.skipWhile isBlank).skipComment with
        | some c => go fuel c
        | none => false

end Ending

end ScriptVet.Script
