import ScriptVet.Script.Grammar.Brackets

/-!
# Signatures and bodies

The parts that functions, methods and function types share: type parameters, parameters, the type of
the result, and a block of statements.
-/

namespace ScriptVet.Script.Grammar

/-- Reads a type parameter: a name, what it extends, and what it is by default. -/
def typeParameter (r : Reader) (c : Cursor) : Option (Unit × Cursor) := do
  let (w, d) ← word? c
  let c :=
    -- the word `const` stands before a name, unless it is the name
    if w = "const" then ((word? d).map Prod.snd).getD d else d
  let bound :=
    match operatorKeyword? "extends" c with
    | some c => some c
    | none => mark? ':' c
  let c ← match bound with
    | some c => (r.type c).map Prod.snd
    | none => some c
  let c ← match mark? '=' c with
    | some c => (r.type c).map Prod.snd
    | none => some c
  return ((), c)

/-- Moves over type parameters between angle brackets. -/
def typeParameters? (r : Reader) (c : Cursor) : Option Cursor := do
  let (names, c) ← commaList '>' (typeParameter r) (← mark? '<' c)
  if names.isEmpty then none else return c

/-- Moves over type parameters, when some follow. -/
def typeParameters (r : Reader) (c : Cursor) : Option Cursor :=
  if r.typed && seesMark '<' c then typeParameters? r c else some c

/-- Reads the parameters of a function. -/
def parameters (r : Reader) (c : Cursor) : Option (Node × Cursor) := do
  let start := c.operator
  let (items, c) ← slots r ')' (← mark? '(' c)
  return (node .parameters start c (← params? items), c)

/-- Moves over what a function promises of its result: a type, or what the result says of an argument's
type. -/
def resultType (r : Reader) (c : Cursor) : Option Cursor :=
  let predicate (c : Cursor) : Option Cursor := do
    let (_, c) ← word? c
    let (_, c) ← r.type (← operatorKeyword? "is" c)
    return c
  let assertion : Option Cursor := do
    let c ← keyword? "asserts" c
    match predicate c with
    | some c => return c
    | none => (word? c).map Prod.snd
  match predicate c with
  | some c => some c
  | none =>
    match assertion with
    | some c => some c
    | none => (r.type c).map Prod.snd

/-- Moves over a colon and what a function promises of its result, when they follow. -/
def resultAscription (r : Reader) (c : Cursor) : Option Cursor :=
  if r.typed then
    match mark? ':' c with
    | some c => resultType r c
    | none => some c
  else some c

/-- Reads type parameters, parameters and the type of the result. -/
def signature (r : Reader) (c : Cursor) : Option (Node × Cursor) := do
  let c ← typeParameters r c
  let (ps, c) ← parameters r c
  let c ← resultAscription r c
  return (ps, c)

/-- Reads the statements of a block, behind its opening brace. -/
def statements (r : Reader) (c : Cursor) : Option (List Node × Cursor) :=
  collect (fun c =>
    let c := c.operand
    if c.rest.head? = some '}' then some (none, c.next)
    else (r.statement c).map fun (s, c) => (some s, c)) c

/-- Reads a block. -/
def block (r : Reader) (c : Cursor) : Option (Node × Cursor) := do
  let start := c.operand
  let (ss, c) ← statements r (← mark? '{' start)
  return (node .block start c ss, c)

/-- Reads a function from its parameters on. -/
def callable (r : Reader) (c : Cursor) : Option (List Node × Cursor) := do
  let (ps, c) ← signature r c
  let (b, c) ← block r c
  return ([ps, b], c)

end ScriptVet.Script.Grammar
