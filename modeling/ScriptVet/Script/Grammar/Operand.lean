import ScriptVet.Script.Grammar.Markup
import ScriptVet.Script.Grammar.Objects

/-!
# Operands

The parts of an expression that no operator joins: literals, names, functions, and what follows them
in brackets or behind a dot.
-/

namespace ScriptVet.Script.Grammar

/-! ## Braces -/

/-- What follows a closing brace can only continue an expression. -/
def continuesExpression (r : Reader) (c : Cursor) : Bool :=
  !r.quietEnding.omits c &&
    match c.operator.rest with
    | '.' :: x :: _ => !isDigit x
    | '=' :: x :: _ => x ≠ '>'
    | '<' :: x :: _ => x = '=' || x = '<'
    | '!' :: x :: _ => x = '='
    | x :: _ =>
      ['?', ',', '*', '%', '&', '|', '^', '>'].contains x ||
        ((operatorWord? c).map fun (w, _) =>
          w = "in" || w = "instanceof" || (r.typed && (w = "as" || w = "satisfies"))).getD false
    | [] => false

/-- Words that start a statement or an operand, so that no name of a property may stand in their
place. -/
def startsOther (w : String) : Bool :=
  match w with
  | "break" | "class" | "const" | "continue" | "debugger" | "delete" | "do" | "export" | "false"
  | "for" | "function" | "if" | "import" | "new" | "null" | "return" | "super" | "switch" | "this"
  | "throw" | "true" | "try" | "typeof" | "var" | "void" | "while" | "with" | "yield" => true
  | _ => false

/-- The braces at the cursor, which could be a block, may be an object. -/
def mayBeObject (r : Reader) (c : Cursor) : Bool :=
  let inner := c.next.operand
  match inner.rest with
  | [] => false
  | '}' :: _ => continuesExpression r inner.next
  | x :: _ =>
    match word? inner with
    | none => ['.', '[', '"', '\'', '#', ',', '*'].contains x || isDigit x
    | some (w, d) =>
      !startsOther w &&
        (seesMark ':' d || seesMark '(' d ||
          (r.typed && (seesMark '<' d || seesMark '?' d)) ||
          ((markRank r.typed w).isSome && (startsPropertyName d || seesMark '*' d)))

/-! ## Functions with an arrow -/

/-- Reads the body of a function behind its arrow. Braces are an object when they can be one. -/
def arrowBody (r : Reader) (place : Place) (c : Cursor) : Option (Node × Cursor) :=
  let c := c.operand
  if c.rest.head? = some '{' then
    match if mayBeObject r c then r.expression place c else none with
    | some body => some body
    | none => block r c
  else r.expression place c

/-- Reads a function behind its parameters, when an arrow follows. -/
def arrow? (r : Reader) (place : Place) (start : Cursor) (params : List Node) (c : Cursor) :
    Option (Piece × Cursor) := do
  let (b, c) ← arrowBody r place (← pair? '=' '>' c)
  return (plain (node .arrowFunction start c (params ++ [b])), c)

/-- Moves over the type of a result that an arrow follows. -/
def arrowResult? (r : Reader) (place : Place) (c : Cursor) : Option Cursor := do
  if r.typed && !place.conditional then
    let c ← resultType r (← mark? ':' c)
    if seesPair '=' '>' c then some c else none
  else none

/-- Reads a function with an arrow whose parameters are `items`, from behind their closing parenthesis.
Gives nothing when no arrow follows. -/
def arrowAfter (r : Reader) (place : Place) (start : Cursor) (items : List (Option Item)) (c : Cursor) :
    Option (Option (Piece × Cursor)) :=
  let follows :=
    if seesPair '=' '>' c then some c
    else if (params? items).isSome then arrowResult? r place c
    else none
  follows.map fun c => do
    let ps ← params? items
    arrow? r place start ps c

/-- Reads parentheses: the parameters of a function with an arrow, or expressions. -/
def parenthesized (r : Reader) (place : Place) (start : Cursor) : Option (Piece × Cursor) := do
  let (items, c) ← slots r ')' start.next
  match arrowAfter r place start items c with
  | some found => found
  | none =>
    let es ← grouped? items
    return ({ node := node .group start c es, assignable := true, simple := true }, c)

/-- Reads a function with type parameters and an arrow. -/
def genericArrow (r : Reader) (place : Place) (start c : Cursor) : Option (Piece × Cursor) := do
  let c ← typeParameters? r c
  let (items, c) ← slots r ')' (← mark? '(' c)
  (← arrowAfter r place start items c)

/-! ## Words -/

/-- The piece of a name, a property or an element: values can be assigned to it. -/
def reference (n : Node) : Piece :=
  { node := n, target := some n, param := some n, assignable := true, simple := true }

/-- Reads a name, or a function with an arrow whose only parameter it is. -/
def nameOperand (r : Reader) (place : Place) (start c : Cursor) : Option (Piece × Cursor) :=
  let n := node .identifier start c []
  if seesPair '=' '>' c then arrow? r place start [n] c
  else some (reference n, c)

/-- Reads an operand that starts with the word `async`, behind it. -/
def asyncOperand (r : Reader) (place : Place) (start c : Cursor) : Option (Piece × Cursor) :=
  if place.ending && r.ending.omits c then nameOperand r place start c
  else
    match word? c with
    | some ("function", d) => (functionExpression r start d).map fun (n, c) => (plain n, c)
    | some (w, d) =>
      if (r.typed || !reserved w) && seesPair '=' '>' d then
        arrow? r place start [node .identifier c.operand d []] d
      else nameOperand r place start c
    | none =>
      match mark? '(' c with
      | some d => do
        let (items, d) ← slots r ')' d
        match arrowAfter r place start items d with
        | some found => found
        | none =>
          let args ← values? items
          return (plain (node .call start d args), d)
      | none =>
        match if r.typed && seesMark '<' c then genericArrow r place start c else none with
        | some found => some found
        | none => nameOperand r place start c

/-- Reads an operand that starts with the word `import`, behind it. -/
def importOperand (r : Reader) (start c : Cursor) : Option (Piece × Cursor) :=
  match mark? '(' c with
  | some d => do
    let (args, c) ← arguments r c.operator d
    return (plain (node .call start c [args]), c)
  | none => do
    let (_, c) ← (← mark? '.' c).operator.name?
    return (reference (node .metaProperty start c []), c)

/-- Reads an operand that starts with a word, behind it. -/
def wordOperand (r : Reader) (place : Place) (start : Cursor) (w : String) (c : Cursor) :
    Option (Piece × Cursor) :=
  let leaf (kind : Kind) : Option (Piece × Cursor) := some (plain (node kind start c []), c)
  match w with
  | "function" => (functionExpression r start c).map fun (n, c) => (plain n, c)
  | "class" => (classTail r .classExpression start [] c).map fun (n, c) => (plain n, c)
  | "async" => asyncOperand r place start c
  | "import" => importOperand r start c
  | "this" =>
    let n := node .literal start c []
    some ({ node := n, param := if r.typed then some n else none }, c)
  | "super" | "null" | "true" | "false" => leaf .literal
  | "yield" => leaf .yield
  | "typeof" | "void" | "delete" => none
  | "await" => if r.typed then none else nameOperand r place start c
  | _ =>
    if !r.typed && reserved w && w ≠ "export" then none
    else nameOperand r place start c

/-! ## Operands -/

/-- Reads an operand up to what follows it in brackets or behind a dot. -/
def primary (r : Reader) (place : Place) (c : Cursor) : Option (Piece × Cursor) :=
  let start := c.operand
  let whole (found : Option (Node × Cursor)) : Option (Piece × Cursor) :=
    found.map fun (n, c) => (plain n, c)
  match start.rest with
  | [] => none
  | x :: _ =>
    match x with
    | '(' => parenthesized r place start
    | '[' => array r start
    | '{' => object r start
    | '"' | '\'' => whole start.string?
    | '`' => whole (template r start)
    | '/' => whole start.regex?
    | '#' => do
      let c ← start.privateName?
      if seesWord "in" c then return (plain (node .privateName start c []), c) else none
    | '@' => do
      let (ds, c) ← decorators r start
      let c ← keyword? "class" c
      whole (classTail r .classExpression start ds c)
    | '<' =>
      if r.typed then
        match genericArrow r place start start with
        | some found => some found
        | none => do
          let c ← typeArguments? r start
          let (e, c) ← r.expression place c
          return (plain (node .unary start c [e]), c)
      else whole (element r start)
    | _ =>
      if isDigit x || x = '.' then start.number?.map fun c => (plain (node .number start c []), c)
      else do
        let (w, c) ← start.name?
        wordOperand r place start (String.ofList w) c

/-- An operand may start here. -/
def startsOperand (c : Cursor) : Bool :=
  let c := c.operand
  match c.rest with
  | '!' :: '=' :: _ => false
  | '.' :: x :: _ => isDigit x
  | x :: _ =>
    if isNameStart x || x = '\\' then !(seesWord "in" c || seesWord "instanceof" c)
    else isDigit x ||
      ['"', '\'', '`', '(', '[', '{', '+', '-', '!', '~', '/', '<', '@', '#'].contains x
  | [] => false

/-- Moves over the word `new` as often as it stands before an operand. -/
def skipNew (c : Cursor) : Nat × Cursor :=
  go (c.left + 1) 0 c
where
  go : Nat → Nat → Cursor → Nat × Cursor
    | 0, n, c => (n, c)
    | fuel + 1, n, c =>
      match keyword? "new" c with
      | some d => if seesMark '.' d then (n, c) else go fuel (n + 1) d
      | none => (n, c)

/-- Reads `new.target`. -/
def newTarget? (c : Cursor) : Option (Piece × Cursor) := do
  let start := c.operand
  let c ← mark? '.' (← keyword? "new" c)
  let c ← operatorKeyword? "target" c
  return (plain (node .metaProperty start c []), c)

/-- The name of a property behind a dot. -/
def memberName? (c : Cursor) : Option Cursor :=
  let c := c.operator
  match c.privateName? with
  | some c => some c
  | none => c.name?.map Prod.snd

/-- A step behind an operand: what the operand has become, and whether the step gave arguments. -/
structure Step where
  piece : Piece
  called : Bool := false

/-- Reads a call's arguments behind an operand. -/
def callStep (r : Reader) (start : Cursor) (p : Piece) (c : Cursor) : Option (Step × Cursor) := do
  let (args, c) ← arguments r c.operator (← mark? '(' c)
  return ({ piece := plain (node .call start c [p.node, args]), called := true }, c)

/-- Reads an index behind an operand and its opening bracket. -/
def indexStep (r : Reader) (start : Cursor) (p : Piece) (c : Cursor) : Option (Step × Cursor) := do
  let (e, c) ← expressions r {} c
  let c ← mark? ']' c
  return ({ piece := reference (node .subscript start c [p.node, e]) }, c)

/-- Reads what stands behind `?.`. -/
def optionalStep (r : Reader) (start : Cursor) (p : Piece) (c : Cursor) : Option (Step × Cursor) :=
  let d := c.operator
  match d.rest with
  | '(' :: _ => callStep r start p c
  | '[' :: _ => indexStep r start p d.next
  | '<' :: _ =>
    if r.typed then do callStep r start p (← typeArguments? r c) else none
  | _ => (memberName? c).map fun c => ({ piece := reference (node .member start c [p.node]) }, c)

/-- Reads type arguments behind an operand. They are taken as such when a call follows, or nothing that
would make the first bracket an operator. -/
def typeStep? (r : Reader) (place : Place) (start : Cursor) (p : Piece) (c : Cursor) :
    Option (Step × Cursor) := do
  if !r.typed then none
  let c ← typeArguments? r c
  if seesMark '(' c then callStep r start p c
  else if place.heritage || (place.ending && r.ending.omits c) || !startsOperand c then
    return ({ piece := plain (node .member start c [p.node]) }, c)
  else none

/-- Reads one step behind an operand. The outer result tells whether one follows. -/
def step? (r : Reader) (place : Place) (start : Cursor) (p : Piece) (c : Cursor) :
    Option (Option (Step × Cursor)) :=
  let d := c.operator
  match d.rest with
  | '?' :: '.' :: x :: _ => if isDigit x then none else some (optionalStep r start p (d.advance 2))
  | '.' :: _ =>
    some ((memberName? d.next).map fun c => ({ piece := reference (node .member start c [p.node]) }, c))
  | '[' :: _ => some (indexStep r start p d.next)
  | '(' :: _ => some (callStep r start p d)
  | '`' :: _ =>
    some ((template r d).map fun (t, c) => ({ piece := plain (node .call start c [p.node, t]) }, c))
  | '+' :: '+' :: _ | '-' :: '-' :: _ =>
    let c := d.advance 2
    some (some ({ piece := plain (node .update start c [p.node]) }, c))
  | '!' :: '=' :: _ => none
  | '!' :: _ =>
    if r.typed then some (some ({ piece := reference (node .member start d.next [p.node]) }, d.next))
    else none
  | '<' :: _ => (typeStep? r place start p d).map some
  | _ => none

/-- Reads all steps behind an operand. `news` counts the words `new` before it that have no arguments
yet. -/
def steps (r : Reader) (place : Place) (start : Cursor) (news : Nat) (p : Piece) (c : Cursor) :
    Option (Piece × Cursor) :=
  go (c.left + 1) news p c
where
  go : Nat → Nat → Piece → Cursor → Option (Piece × Cursor)
    | 0, _, _, _ => none
    | fuel + 1, news, p, c =>
      let finished := some (if news = 0 then p else plain (node .new start c [p.node]), c)
      if place.ending && r.ending.omits c then finished
      else
        match step? r place start p c with
        | none => if news = 0 || p.whole then finished else none
        | some none => none
        | some (some (s, c)) =>
          if !p.whole then none
          else if s.called && 0 < news then go fuel (news - 1) (plain s.piece.node) c
          else go fuel news s.piece c

/-- Reads an operand with all that follows it. -/
def operand (r : Reader) (place : Place) (c : Cursor) : Option (Piece × Cursor) := do
  let start := c.operand
  let (news, d) := skipNew start
  let (p, c) ←
    match newTarget? d with
    | some found => some found
    | none => primary r place d
  steps r place start news p c

end ScriptVet.Script.Grammar
