import ScriptVet.Script.Grammar.Basic

/-!
# What stands between brackets

Arguments, the elements of an array, parameters and an expression in parentheses look alike until
the token behind the closing bracket. `slots` reads all of them; each use then asks for the reading it
needs.
-/

namespace ScriptVet.Script.Grammar

/-- How an item of a bracketed list is written. -/
inductive Form where
  /-- As any expression. -/
  | plain
  /-- With a type behind it. -/
  | annotated
  /-- With a mark that only parameters have. -/
  | parameter
  deriving DecidableEq

/-- An item of a bracketed list. -/
structure Item where
  /-- The reading as an argument or an element. -/
  value : Option Node
  /-- The reading as a parameter or a part of a pattern. -/
  param : Option Node
  /-- Three dots stand before it. -/
  spread : Bool
  form : Form

/-- Moves over a type behind a colon, when the language has types and one follows. -/
def ascription (r : Reader) (c : Cursor) (ending : Bool := false) : Option Cursor :=
  if r.typed then
    match mark? ':' c with
    | some c => (r.type c ending).map Prod.snd
    | none => some c
  else some c

/-- Reads expressions with commas between. -/
def expressions (r : Reader) (place : Place) (c : Cursor) : Option (Node × Cursor) := do
  let start := c.operand
  let (es, c) ← commaSeparated (r.expression place) c
  match es with
  | [e] => return (e, c)
  | es => return (node .sequence start c es, c)

/-- Reads the value behind an equals sign, when one follows. -/
def initializer (r : Reader) (place : Place) (c : Cursor) : Option (List Node × Cursor) :=
  match mark? '=' c with
  | some c => (r.expression place c).map fun (e, c) => ([e], c)
  | none => some ([], c)

/-- Words that may stand before a parameter where the language has types. -/
def parameterMark (w : String) : Bool :=
  match w with
  | "public" | "private" | "protected" | "override" | "readonly" => true
  | _ => false

/-- A pattern may start here. -/
def startsPattern (c : Cursor) : Bool :=
  match c.operand.rest with
  | x :: _ => isNameStart x || x = '{' || x = '['
  | [] => false

/-- Moves over the words before a parameter, and tells whether there were any. -/
def parameterMarks (c : Cursor) : Bool × Cursor :=
  go (c.left + 1) false c
where
  go : Nat → Bool → Cursor → Bool × Cursor
    | 0, found, c => (found, c)
    | fuel + 1, found, c =>
      match word? c with
      | some (w, d) => if parameterMark w && startsPattern d then go fuel true d else (found, c)
      | none => (found, c)

/-- Reads an item. `decorators` moves over the decorators before a parameter. -/
def item (r : Reader) (decorators : Cursor → Option Cursor) (c : Cursor) : Option (Item × Cursor) := do
  let start := c.operand
  let decorated := r.typed && start.rest.head? = some '@'
  let c ← if decorated then decorators start else some start
  let (marked, c) := if r.typed then parameterMarks c else (false, c)
  let c := c.operand
  let spread := c.looksAt ['.', '.', '.']
  let (p, c) ← r.goal (.expression {}) (if spread then c.advance 3 else c)
  let value := if p.whole then some p.node else none
  let value := if spread then value.map fun n => node .spread start c [n] else value
  let param := if spread then p.target.map fun n => node .restPattern start c [n] else p.param
  let form : Form := if decorated || marked then .parameter else .plain
  if !r.typed then return ({ value, param, spread, form }, c)
  let (form, c) :=
    match mark? '?' c with
    | some d => (Form.parameter, d)
    | none => (form, c)
  let d ← ascription r c
  let form := if form = .plain && c.pos < d.pos then Form.annotated else form
  let c := d
  match mark? '=' c with
  | none => return ({ value, param, spread, form }, c)
  | some c =>
    let (e, c) ← r.expression {} c
    return ({ value, param := param.map fun n => node .defaultPattern start c [n, e], spread
              form := .parameter }, c)

/-- Reads the items up to a closing bracket. A place between commas may be empty. -/
def slotsWith (r : Reader) (decorators : Cursor → Option Cursor) (close : Char) (c : Cursor) :
    Option (List (Option Item) × Cursor) :=
  go (c.left + 1) [] c
where
  go : Nat → List (Option Item) → Cursor → Option (List (Option Item) × Cursor)
    | 0, _, _ => none
    | fuel + 1, done, c =>
      let c := c.operand
      match c.rest with
      | [] => none
      | x :: _ =>
        if x = ',' then go fuel (none :: done) c.next
        else if x = close then some ((none :: done).reverse, c.next)
        else
          match item r decorators c with
          | none => none
          | some (i, c) =>
            let c := c.operator
            match c.rest with
            | [] => none
            | y :: _ =>
              if y = ',' then go fuel (some i :: done) c.next
              else if y = close then some ((some i :: done).reverse, c.next)
              else none

/-- The items as arguments or elements: empty places count for nothing. -/
def values? (items : List (Option Item)) : Option (List Node) :=
  (items.filterMap id).mapM fun i => if i.form = .plain then i.value else none

/-- The items as parts of a pattern, where places may be empty. -/
def parts? (items : List (Option Item)) : Option (List Node) :=
  (items.filterMap id).mapM fun i => if i.form = .plain then i.param else none

/-- The items as parameters: no place is empty, but a comma may stand behind the last. -/
def params? (items : List (Option Item)) : Option (List Node) :=
  let items := match items.getLast? with
    | some none => items.dropLast
    | _ => items
  items.mapM fun i => i.bind Item.param

/-- The items as an expression in parentheses. A type may stand behind a single one. -/
def grouped? (items : List (Option Item)) : Option (List Node) :=
  let lone := items.length = 1
  if items.isEmpty then none
  else items.mapM fun i => do
    let i ← i
    if i.spread || i.form = .parameter || (i.form = .annotated && !lone) then none else i.value

/-- Moves over types between angle brackets. -/
def typeArguments? (r : Reader) (c : Cursor) : Option Cursor := do
  let (types, c) ← commaList '>' (fun c => r.type c) (← mark? '<' c)
  if types.isEmpty then none else return c

/-- Reads a decorator: a name behind `@`, with names behind dots and arguments. -/
def decorator (r : Reader) (c : Cursor) : Option (Node × Cursor) := do
  let start := c.operand
  let c ← mark? '@' start
  match if r.typed then mark? '(' c else none with
  | some c =>
    let (e, c) ← expressions r {} c
    let c ← mark? ')' c
    return (node .decorator start c [e], c)
  | none =>
    let (_, c) ← word? c
    let (_, c) ← collect (fun c =>
      match mark? '.' c with
      | none => some (none, c)
      | some c => c.operator.name?.map fun (_, c) => (some (), c)) c
    let applied := if r.typed then (typeArguments? r c).getD c else c
    match mark? '(' applied with
    | none => return (node .decorator start c [], c)
    | some c =>
      let (items, c) ← slotsWith r (fun _ => none) ')' c
      return (node .decorator start c (← values? items), c)

/-- Reads any number of decorators. -/
def decorators (r : Reader) (c : Cursor) : Option (List Node × Cursor) :=
  collect (fun c =>
    if c.operand.rest.head? = some '@' then (decorator r c).map fun (d, c) => (some d, c)
    else some (none, c)) c

/-- Reads the items up to a closing bracket. -/
def slots (r : Reader) (close : Char) (c : Cursor) : Option (List (Option Item) × Cursor) :=
  slotsWith r (fun c => (decorators r c).map Prod.snd) close c

/-- Reads the arguments of a call, behind the opening parenthesis at `start`. -/
def arguments (r : Reader) (start c : Cursor) : Option (Node × Cursor) := do
  let (items, c) ← slots r ')' c
  return (node .arguments start c (← values? items), c)

/-- Reads an expression in parentheses. -/
def group (r : Reader) (c : Cursor) : Option (Node × Cursor) := do
  let start := c.operator
  let (items, c) ← slots r ')' (← mark? '(' c)
  return (node .group start c (← grouped? items), c)

end ScriptVet.Script.Grammar
