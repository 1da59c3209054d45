import ScriptVet.Script.Grammar.Functions

/-!
# Objects and arrays

Both are read once, as values and as patterns.
-/

namespace ScriptVet.Script.Grammar

/-- A piece that is a list of values or a pattern. -/
def cover (kind patternKind : Kind) (start stop : Cursor) (values parts : Option (List Node)) : Piece :=
  let pattern := parts.map (node patternKind start stop)
  { node := node kind start stop (values.getD [])
    target := pattern, param := pattern, assignable := pattern.isSome, whole := values.isSome }

/-- Reads an array. -/
def array (r : Reader) (c : Cursor) : Option (Piece × Cursor) := do
  let start := c.operand
  let (items, c) ← slots r ']' (← mark? '[' start)
  return (cover .array .arrayPattern start c (values? items) (parts? items), c)

/-- An entry of an object: its readings as a value and as a part of a pattern. -/
structure Entry where
  value : Option Node
  part : Option Node

/-- Reads an entry that starts with three dots. -/
def spreadEntry (r : Reader) (start : Cursor) : Option (Entry × Cursor) := do
  let (p, c) ← r.goal (.expression {}) (start.advance 3)
  return (
    { value := if p.whole then some (node .spread start c [p.node]) else none
      part := p.target.map fun n => node .restPattern start c [n] }, c)

/-- Reads an entry behind its name. -/
def entryTail (r : Reader) (start : Cursor) (marks : Marks) (name : Node) (c : Cursor) :
    Option (Entry × Cursor) := do
  let called := if r.typed then (mark? '?' c).getD c else c
  if seesMark '(' called || (r.typed && seesMark '<' called) then
    let (m, c) ← methodTail r start name called
    return ({ value := some m, part := none }, c)
  else if marks.star || !marks.words.isEmpty then none
  else
    match mark? ':' c with
    | some c =>
      let (p, c) ← r.goal (.expression {}) c
      return (
        { value :=
            if p.whole then some (node .pair start c [name.as .key, p.node.as .value]) else none
          part := p.param.map fun n => node .pairPattern start c [name, n] }, c)
    | none =>
      if name.kind ≠ .identifier then none
      else
        let (w, _) ← start.name?
        if !r.typed && reserved (String.ofList w) && w ≠ "export".toList then none
        else
          let name := node .shorthand start c []
          let (value, c) ← initializer r {} c
          if value.isEmpty then return ({ value := some name, part := some name }, c)
          else return ({ value := none, part := some (node .defaultPattern start c (name :: value)) }, c)

/-- Reads an entry of an object. -/
def entry (r : Reader) (c : Cursor) : Option (Entry × Cursor) := do
  let start := c.operand
  if start.looksAt ['.', '.', '.'] then spreadEntry r start
  else
    let (marks, c) := memberMarks r (fun _ => false) start
    let (name, c) ← propertyName r c
    entryTail r start marks name c

/-- Reads the entries of an object behind its opening brace. A place between commas may be empty. -/
def entries (r : Reader) (c : Cursor) : Option (List Entry × Cursor) :=
  go (c.left + 1) [] c
where
  go : Nat → List Entry → Cursor → Option (List Entry × Cursor)
    | 0, _, _ => none
    | fuel + 1, done, c =>
      let c := c.operand
      match c.rest with
      | ',' :: _ => go fuel done c.next
      | '}' :: _ => some (done.reverse, c.next)
      | _ =>
        match entry r c with
        | none => none
        | some (e, c) =>
          let c := c.operator
          match c.rest with
          | ',' :: _ => go fuel (e :: done) c.next
          | '}' :: _ => some ((e :: done).reverse, c.next)
          | _ => none

/-- Reads an object. -/
def object (r : Reader) (c : Cursor) : Option (Piece × Cursor) := do
  let start := c.operand
  let (es, c) ← entries r (← mark? '{' start)
  return (cover .object .objectPattern start c (es.mapM Entry.value) (es.mapM Entry.part), c)

/-- Reads a pattern in brackets or braces. -/
def pattern? (r : Reader) (c : Cursor) : Option (Node × Cursor) := do
  let (p, c) ← match c.operand.rest with
    | '{' :: _ => object r c
    | '[' :: _ => array r c
    | _ => none
  return (← p.target, c)

/-- Reads what a declaration binds: a name or a pattern. -/
def bound (r : Reader) (c : Cursor) : Option (Node × Cursor) :=
  match pattern? r c with
  | some found => some found
  | none => binding? r c

end ScriptVet.Script.Grammar
