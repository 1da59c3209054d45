import ScriptVet.Script.Lexeme
import ScriptVet.Script.Semicolon

/-!
# What the grammar is made of

The rules of the grammar are functions from a cursor to what they read and the cursor behind it, or to
nothing when they do not apply. Rules refer to each other in circles, so each rule takes the reader
of the four circular notions (`Goal`) as an argument; `Script.Parse` closes the circle.

Brackets and braces are read before it is known whether they are a value or a pattern. A `Piece`
therefore carries both readings.
-/

namespace ScriptVet.Script.Grammar

/-- Where an expression stands. -/
structure Place where
  /-- A semicolon that may be left out can end it. -/
  ending : Bool := false
  /-- The word `in` ends it. -/
  beforeIn : Bool := false
  /-- It names the parent of a class, so a brace ends it. -/
  heritage : Bool := false
  /-- A colon behind parentheses belongs to a conditional around it. -/
  conditional : Bool := false

/-- The notions that rules refer to in circles. -/
inductive Goal where
  | expression (place : Place)
  | statement
  | element
  | type (ending operator : Bool)

/-- What an expression rule has read. -/
structure Piece where
  /-- The reading as an expression. -/
  node : Node
  /-- The reading as a pattern that values are assigned to. -/
  target : Option Node := none
  /-- The reading as a parameter: a pattern, perhaps with a default. -/
  param : Option Node := none
  /-- A value may be assigned to it. -/
  assignable : Bool := false
  /-- A value may be combined into it, as by `+=`. -/
  simple : Bool := false
  /-- It makes sense as an expression, not only as a pattern. -/
  whole : Bool := true

/-- A rule: what it reads, and the cursor behind it. -/
abbrev Rule (α : Type) := Cursor → Option (α × Cursor)

/-- What the rules share: the language, and the reader of the circular notions. -/
structure Reader where
  language : Language
  goal : Goal → Cursor → Option (Piece × Cursor)

namespace Reader

/-- The script is in the language with types. -/
def typed (r : Reader) : Bool := r.language = .typescript

/-- Reads an expression that makes sense as one. -/
def expression (r : Reader) (place : Place) (c : Cursor) : Option (Node × Cursor) := do
  let (e, c) ← r.goal (.expression place) c
  if e.whole then return (e.node, c) else none

/-- Reads a statement. -/
def statement (r : Reader) (c : Cursor) : Option (Node × Cursor) := do
  let (s, c) ← r.goal .statement c
  return (s.node, c)

/-- Reads a type. -/
def type (r : Reader) (c : Cursor) (ending : Bool := false) (operator : Bool := false) :
    Option (Node × Cursor) := do
  let (t, c) ← r.goal (.type ending operator) c
  return (t.node, c)

/-- What may follow the end of an expression. -/
def ending (r : Reader) : Ending := { language := r.language }

/-- What may follow where no operator may stand. -/
def quietEnding (r : Reader) : Ending := { language := r.language, operator := false }

end Reader

/-! ## Tokens -/

/-- A node over the source between two cursors. -/
def node (kind : Kind) (start stop : Cursor) (children : List Node) : Node :=
  .mk kind none ⟨start.pos, stop.pos⟩ children

/-- A piece that is an expression and nothing else. -/
def plain (n : Node) : Piece := { node := n }

/-- Moves over a mark, wherever operators may stand. -/
def mark? (x : Char) (c : Cursor) : Option Cursor :=
  let c := c.operator
  match c.rest with
  | y :: _ => if y = x then some c.next else none
  | [] => none

/-- A mark follows. -/
def seesMark (x : Char) (c : Cursor) : Bool := c.operator.rest.head? = some x

/-- A mark of two characters follows. -/
def seesPair (x y : Char) (c : Cursor) : Bool :=
  match c.operator.rest with
  | a :: b :: _ => a = x && b = y
  | _ => false

/-- Moves over a mark of two characters. -/
def pair? (x y : Char) (c : Cursor) : Option Cursor :=
  let c := c.operator
  match c.rest with
  | a :: b :: _ => if a = x && b = y then some (c.advance 2) else none
  | _ => none

/-- The next word, where an operand or a statement may start. -/
def word? (c : Cursor) : Option (String × Cursor) := do
  let (w, c) ← c.operand.name?
  return (String.ofList w, c)

/-- The next word, where an operator may stand. -/
def operatorWord? (c : Cursor) : Option (String × Cursor) := do
  let (w, c) ← c.operator.name?
  return (String.ofList w, c)

/-- Moves over a given word. -/
def keyword? (w : String) (c : Cursor) : Option Cursor :=
  match word? c with
  | some (v, c) => if v = w then some c else none
  | none => none

/-- Moves over a given word where an operator may stand. -/
def operatorKeyword? (w : String) (c : Cursor) : Option Cursor :=
  match operatorWord? c with
  | some (v, c) => if v = w then some c else none
  | none => none

/-- A given word follows. -/
def seesWord (w : String) (c : Cursor) : Bool := (operatorKeyword? w c).isSome

/-- Words that name nothing: they belong to the grammar everywhere. -/
def reserved (w : String) : Bool :=
  match w with
  | "break" | "case" | "catch" | "class" | "const" | "continue" | "debugger" | "default" | "delete"
  | "do" | "else" | "export" | "extends" | "false" | "finally" | "for" | "function" | "if" | "import"
  | "in" | "instanceof" | "new" | "null" | "return" | "super" | "switch" | "this" | "throw" | "true"
  | "try" | "typeof" | "var" | "void" | "while" | "with" => true
  | _ => false

/-- A word that may be declared. The language with types takes any word where no rule of the grammar
wants it. -/
def binding? (r : Reader) (c : Cursor) : Option (Node × Cursor) := do
  let start := c.operand
  let (w, c) ← word? c
  if reserved w && !r.typed then none
  else return (node .identifier start c [], c)

/-! ## Lists -/

/-- Reads items until `step` stops. `step` gives nothing when the list is wrong, and otherwise an item
or nothing more, and the cursor behind it. The fuel bounds the number of items by the number of
characters left. -/
def collect {α : Type} (step : Cursor → Option (Option α × Cursor)) (c : Cursor) :
    Option (List α × Cursor) :=
  go (c.left + 1) [] c
where
  go : Nat → List α → Cursor → Option (List α × Cursor)
    | 0, _, _ => none
    | fuel + 1, done, c =>
      match step c with
      | none => none
      | some (none, c) => some (done.reverse, c)
      | some (some x, c) => go fuel (x :: done) c

/-- Reads `item` one or more times with commas between. -/
def commaSeparated {α : Type} (item : Rule α) (c : Cursor) : Option (List α × Cursor) := do
  let (first, c) ← item c
  let (more, c) ← collect (fun c =>
    match mark? ',' c with
    | none => some (none, c)
    | some next => (item next).map fun (x, c) => (some x, c)) c
  return (first :: more, c)

/-- Reads items up to a closing mark. Commas stand between items, and one may stand behind the last. -/
def commaList {α : Type} (close : Char) (item : Rule α) (c : Cursor) : Option (List α × Cursor) := do
  match mark? close c with
  | some c => return ([], c)
  | none =>
    let (first, c) ← item c
    let (more, c) ← collect (fun c =>
      match mark? ',' c with
      | none => some (none, c)
      | some next =>
        if seesMark close next then some (none, next)
        else (item next).map fun (x, c) => (some x, c)) c
    let c ← mark? close c
    return (first :: more, c)

/-! ## Semicolons -/

/-- The end of a statement: a semicolon, or a place where one may be left out. -/
def semicolon (e : Ending) (c : Cursor) : Option Cursor :=
  if e.omits c then some c else mark? ';' c

/-- The end of a block or a declaration that needs no semicolon. A comment with a markup mark may
follow only where a semicolon could stand. -/
def afterBlock (r : Reader) (c : Cursor) : Option Cursor :=
  if r.quietEnding.omits c then some c
  else if c.operator.skipMarkupComment.isSome then none
  else some c

end ScriptVet.Script.Grammar
