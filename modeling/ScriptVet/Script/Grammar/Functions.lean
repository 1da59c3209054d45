import ScriptVet.Script.Grammar.Name
import ScriptVet.Script.Grammar.Signature

/-!
# Functions and classes
-/

namespace ScriptVet.Script.Grammar

/-! ## Functions -/

/-- Reads a function that is a value, behind the word `function`. -/
def functionExpression (r : Reader) (start c : Cursor) : Option (Node × Cursor) := do
  let (kind, c) :=
    match mark? '*' c with
    | some c => (Kind.generatorExpression, c)
    | none => (Kind.functionExpression, c)
  let c := ((binding? r c).map Prod.snd).getD c
  let (parts, c) ← callable r c
  return (node kind start c parts, c)

/-- What may follow a signature whose body may be missing. -/
def Reader.signatureEnding (r : Reader) : Ending :=
  { language := r.language, operator := false, signature := true }

/-- Reads a function that is declared, behind the word `function`. Where the language has types the
body may be missing. -/
def functionDeclaration (r : Reader) (start c : Cursor) : Option (Node × Cursor) := do
  let (kind, c) :=
    match mark? '*' c with
    | some c => (Kind.generatorDeclaration, c)
    | none => (Kind.functionDeclaration, c)
  let (name, c) ← binding? r c
  let (ps, c) ← signature r c
  if r.typed && !seesMark '{' c then
    let c ← semicolon r.signatureEnding c
    return (node .functionSignature start c [name, ps], c)
  else
    let (b, c) ← block r c
    return (node kind start c [name, ps, b], c)

/-! ## Classes -/

/-- Reads a method of an object or a class, from its parameters on. -/
def methodTail (r : Reader) (start : Cursor) (name : Node) (c : Cursor) : Option (Node × Cursor) := do
  let (parts, c) ← callable r c
  return (node .method start c (name :: parts), c)

/-- Moves over the end of a field. -/
def fieldEnd (r : Reader) (e : Ending) (c : Cursor) : Option Cursor :=
  match semicolon e c with
  | some c => some c
  | none => if r.typed then mark? ',' c else none

/-- Reads a field of a class behind its name. -/
def fieldTail (r : Reader) (start : Cursor) (name : Node) (c : Cursor) : Option (Node × Cursor) := do
  let c :=
    if r.typed then
      match mark? '?' c with
      | some c => c
      | none => (mark? '!' c).getD c
    else c
  let c ← ascription r c true
  let (value, c) ← initializer r { ending := true } c
  let stop := c
  let c ← fieldEnd r (if value.isEmpty then r.quietEnding else r.ending) c
  return (node .field start stop (name :: value), c)

/-- Reads a member of a class whose decorators are read. -/
def classMember (r : Reader) (start c : Cursor) : Option (Node × Cursor) := do
  let static : Option Cursor := do
    let c ← keyword? "static" c
    if seesMark '{' c then some c else none
  match static with
  | some c => block r c
  | none =>
    let index : Option Cursor := do
      if r.typed then
        let (_, c) := memberMarks r r.quietEnding.omits c
        let (_, c) ← word? (← mark? '[' c)
        let (_, c) ← r.type (← mark? ':' c)
        let c ← ascription r (← mark? ']' c) true
        fieldEnd r r.quietEnding c
      else none
    match index with
    | some c => return (node .field start c [], c)
    | none =>
      let (marks, c) := memberMarks r r.quietEnding.omits c
      let (name, c) ← propertyName r c
      let called := if r.typed then (mark? '?' c).getD c else c
      if seesMark '(' called || (r.typed && seesMark '<' called) then
        let (ps, c) ← signature r called
        if r.typed && !seesMark '{' c then
          let stop := c
          let c ← fieldEnd r r.signatureEnding c
          return (node .functionSignature start stop [name, ps], c)
        else
          let (b, c) ← block r c
          return (node .method start c [name, ps, b], c)
      else if marks.ofMethod then none
      else fieldTail r start name c

/-- Reads the body of a class. -/
def classBody (r : Reader) (c : Cursor) : Option (Node × Cursor) := do
  let start := c.operator
  let (members, c) ← collect (fun c =>
    let c := c.operand
    match c.rest with
    | '}' :: _ => some (none, c.next)
    | ';' :: _ => some (some [], c.next)
    | _ => do
      let start := c
      let (ds, c) ← decorators r c
      let (m, c) ← classMember r start c
      return (some (ds ++ [m]), c)) (← mark? '{' c)
  return (node .classBody start c members.flatten, c)

/-- Reads what a class extends and implements. -/
def classHeritage (r : Reader) (c : Cursor) : Option (List Node × Cursor) := do
  let parent (c : Cursor) : Option (Node × Cursor) := do
    let (e, c) ← r.expression { heritage := true } c
    let c := if r.typed then (typeArguments? r c).getD c else c
    return (e, c)
  let (parents, c) ← match operatorKeyword? "extends" c with
    | some c =>
      if r.typed then commaSeparated parent c
      else (parent c).map fun (e, c) => ([e], c)
    | none => some ([], c)
  match if r.typed then operatorKeyword? "implements" c else none with
  | some c =>
    let (_, c) ← commaSeparated (fun c => r.type c) c
    return (parents, c)
  | none => return (parents, c)

/-- The name of a class, when one follows. -/
def className? (r : Reader) (c : Cursor) : Option (Node × Cursor) :=
  match word? c with
  | some (w, _) =>
    if w = "extends" || (r.typed && w = "implements") then none else binding? r c
  | none => none

/-- Reads a class behind the word `class`. -/
def classTail (r : Reader) (kind : Kind) (start : Cursor) (before : List Node) (c : Cursor) :
    Option (Node × Cursor) := do
  let c := ((className? r c).map Prod.snd).getD c
  let c ← typeParameters r c
  let (parents, c) ← classHeritage r c
  let (body, c) ← classBody r c
  return (node kind start c (before ++ parents ++ [body]), c)

end ScriptVet.Script.Grammar
