import ScriptVet.Script.Grammar.Operand

/-!
# Expressions

An expression is a chain of operands with operators between. How tightly an operator binds does not
matter here, so a chain is one node. An assignment may stand behind any operator, and what it assigns
to is the operand just before it.
-/

namespace ScriptVet.Script.Grammar

/-- What joins two operands. -/
inductive Joint where
  /-- An operator on two values. -/
  | binary
  /-- An assignment. -/
  | assign
  /-- An operator that assigns its result. -/
  | combine
  /-- The question mark of a conditional. -/
  | question

/-- The question mark at the cursor marks something optional, as in a parameter list. -/
def marksOptional (c : Cursor) : Bool :=
  match (c.next.skipWhile isSpace).rest with
  | ':' :: _ | ')' :: _ | ',' :: _ => true
  | _ => false

/-- The sign that joins two operands and its length. -/
def sign? (r : Reader) (c : Cursor) : Option (Joint × Nat) :=
  match c.rest with
  | '=' :: '=' :: '=' :: _ => some (.binary, 3)
  | '=' :: '=' :: _ => some (.binary, 2)
  | '=' :: '>' :: _ => none
  | '=' :: _ => some (.assign, 1)
  | '!' :: '=' :: '=' :: _ => some (.binary, 3)
  | '!' :: '=' :: _ => some (.binary, 2)
  | '+' :: '+' :: _ | '-' :: '-' :: _ => none
  | '*' :: '*' :: '=' :: _ => some (.combine, 3)
  | '*' :: '*' :: _ => some (.binary, 2)
  | '&' :: '&' :: '=' :: _ | '|' :: '|' :: '=' :: _ | '?' :: '?' :: '=' :: _ => some (.combine, 3)
  | '&' :: '&' :: _ | '|' :: '|' :: _ | '?' :: '?' :: _ => some (.binary, 2)
  | '<' :: '<' :: '=' :: _ => some (.combine, 3)
  | '<' :: '<' :: _ => some (.binary, 2)
  | '>' :: '>' :: '>' :: '=' :: _ => some (.combine, 4)
  | '>' :: '>' :: '>' :: _ => some (.binary, 3)
  | '>' :: '>' :: '=' :: _ => some (.combine, 3)
  | '>' :: '>' :: _ => some (.binary, 2)
  | '<' :: '=' :: _ | '>' :: '=' :: _ => some (.binary, 2)
  | '+' :: '=' :: _ | '-' :: '=' :: _ | '*' :: '=' :: _ | '/' :: '=' :: _ | '%' :: '=' :: _
  | '&' :: '=' :: _ | '|' :: '=' :: _ | '^' :: '=' :: _ => some (.combine, 2)
  | '?' :: _ => if r.typed && marksOptional c then none else some (.question, 1)
  | x :: _ =>
    if ['+', '-', '*', '/', '%', '&', '|', '^', '<', '>'].contains x then some (.binary, 1) else none
  | [] => none

/-- What joins the operand before the cursor with the next, and the cursor behind it. -/
def joint? (r : Reader) (place : Place) (c : Cursor) : Option (Joint × Cursor) :=
  let c := c.operator
  match sign? r c with
  | some (j, n) => some (j, c.advance n)
  | none =>
    match operatorWord? c with
    | some ("in", d) => if place.beforeIn then none else some (.binary, d)
    | some ("instanceof", d) => some (.binary, d)
    | _ => none

/-- Moves over the operators before an operand, and tells whether there were any. -/
def leadingOperators (r : Reader) (place : Place) (c : Cursor) : Bool × Cursor :=
  go (c.left + 1) false c
where
  go : Nat → Bool → Cursor → Bool × Cursor
    | 0, found, c => (found, c)
    | fuel + 1, found, c =>
      let d := c.operand
      match d.rest with
      | '+' :: '+' :: _ | '-' :: '-' :: _ => go fuel true (d.advance 2)
      | '+' :: _ | '-' :: _ | '!' :: _ | '~' :: _ => go fuel true d.next
      | _ =>
        match word? d with
        | some ("typeof", e) | some ("void", e) | some ("delete", e) => go fuel true e
        | some ("await", e) =>
          if !r.typed && ((place.ending && r.ending.omits e) || !startsOperand e) then (found, c)
          else go fuel true e
        | some ("yield", e) =>
          if place.ending && r.ending.omits e then (found, c)
          else
            match mark? '*' e with
            | some e => go fuel true e
            | none => if startsOperand e then go fuel true e else (found, c)
        | _ => (found, c)

/-- Moves over the types that an operand is said to have, behind the words `as` and `satisfies`. -/
def ascriptions (r : Reader) (place : Place) (c : Cursor) : Option Cursor :=
  go (c.left + 1) c
where
  go : Nat → Cursor → Option Cursor
    | 0, c => some c
    | fuel + 1, c =>
      if place.ending && r.ending.omits c then some c
      else
        match operatorWord? c with
        | some ("as", d) | some ("satisfies", d) =>
          match r.type d place.ending true with
          | some (_, c) => go fuel c
          | none => none
        | _ => some c

/-- Reads the middle of a conditional and its colon. Where the language has types, a colon behind
parentheses is first taken for the type of a function's result. -/
def consequence (r : Reader) (c : Cursor) : Option (Node × Cursor) := do
  let (e, d) ← r.expression {} c
  match mark? ':' d with
  | some d => return (e, d)
  | none =>
    if !r.typed then none
    else
      let (e, d) ← r.expression { conditional := true } c
      return (e, ← mark? ':' d)

/-- Reads a chain of operands. `done` holds the operands read, the last one first; `first` is what the
chain assigns to when it is nothing but an assignment. -/
def chain (r : Reader) (place : Place) (start : Cursor) :
    Nat → List Node → Option Node → Cursor → Option (Piece × Cursor)
  | 0, _, _, _ => none
  | fuel + 1, done, first, c =>
    let (leading, c) := leadingOperators r place c
    match operand r place c with
    | none => none
    | some (p, stop) =>
      match if r.typed then ascriptions r place stop else some stop with
      | none => none
      | some c =>
        let ascribed := stop.pos < c.pos
        let bare := done.isEmpty && !leading
        let ended := place.ending && r.ending.omits c
        match if ended then none else joint? r place c with
        | none =>
          if bare && !ascribed then some (p, c)
          else if !p.whole then none
          else
            let parts := (p.node :: done).reverse
            let kind : Kind := if done.isEmpty then .unary else .operation
            some ({ node := node kind start c parts
                    param := first.map fun n => node .defaultPattern start c (n :: parts.tail) }, c)
        | some (.binary, c) =>
          if p.whole then chain r place start fuel (p.node :: done) first c else none
        | some (.assign, c) =>
          if p.assignable && !ascribed then
            let first := if bare then p.target else first
            chain r place start fuel (p.target.getD p.node :: done) first c
          else none
        | some (.combine, c) =>
          if p.simple && !ascribed then chain r place start fuel (p.node :: done) first c else none
        | some (.question, c) =>
          if !p.whole then none
          else
            match consequence r c with
            | none => none
            | some (e, c) => chain r place start fuel (e :: p.node :: done) first c

/-- Reads an expression. -/
def expressionBody (r : Reader) (place : Place) (c : Cursor) : Option (Piece × Cursor) :=
  chain r place c.operand (c.left + 1) [] none c

end ScriptVet.Script.Grammar
