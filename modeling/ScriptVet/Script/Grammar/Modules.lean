import ScriptVet.Script.Grammar.Declaration

/-!
# Imports and exports
-/

namespace ScriptVet.Script.Grammar

/-- Reads the module that is named behind the word `from`. -/
def fromClause (c : Cursor) : Option (Node × Cursor) := do
  let c ← operatorKeyword? "from" c
  let (s, c) ← c.operand.string?
  return (s.as .source, c)

/-- Moves over what a module is called by in a list: a word or a string. -/
def exportName (c : Cursor) : Option Cursor :=
  match c.operand.string? with
  | some (_, c) => some c
  | none => (word? c).map Prod.snd

/-- Moves over the words before a name in a list of types. -/
def typeOnly (r : Reader) (c : Cursor) : Cursor :=
  match if r.typed then word? c else none with
  | some (w, d) =>
    -- the word is the name itself when none follows, or only `as` with a new name
    let named := (exportName d).isSome &&
      !(seesWord "as" d && ((operatorKeyword? "as" d).bind exportName).isSome &&
        !(((operatorKeyword? "as" d).bind exportName).map (seesWord "as")).getD false)
    if (w = "type" || w = "typeof") && named then d else c
  | none => c

/-- Moves over one name of an import list. -/
def importSpecifier (r : Reader) (c : Cursor) : Option (Unit × Cursor) := do
  let c := typeOnly r c
  let d ← exportName c
  match operatorKeyword? "as" d with
  | some e =>
    let (_, e) ← binding? r e
    return ((), e)
  | none =>
    let (_, c) ← binding? r c
    return ((), c)

/-- Moves over one name of an export list. -/
def exportSpecifier (r : Reader) (c : Cursor) : Option (Unit × Cursor) := do
  let named (c : Cursor) : Option Cursor :=
    match word? c with
    | some (w, d) => if r.typed || !reserved w || w = "default" then some d else none
    | none => exportName c
  let c ← named (typeOnly r c)
  match operatorKeyword? "as" c with
  | some c => return ((), ← named c)
  | none => return ((), c)

/-- Moves over the names that an import binds. -/
def importClause (r : Reader) (c : Cursor) : Option Cursor := do
  let listed (c : Cursor) : Option Cursor :=
    match mark? '*' c with
    | some c => do
      let (_, c) ← binding? r (← operatorKeyword? "as" c)
      return c
    | none => do
      let (_, c) ← commaList '}' (importSpecifier r) (← mark? '{' c)
      return c
  match binding? r c with
  | none => listed c
  | some (_, c) =>
    match mark? ',' c with
    | some c => listed c
    | none => some c

/-- Reads the attributes of an import, when they follow on the same line. -/
def importAttributes (r : Reader) (c : Cursor) : Option (List Node × Cursor) :=
  if r.quietEnding.omits c then some ([], c)
  else
    match operatorKeyword? "with" c with
    | none => some ([], c)
    | some d => do
      let (o, d) ← object r d
      if o.whole then return ([o.node], d) else none

/-- Reads an import behind its word. -/
def importStatement (r : Reader) (start c : Cursor) : Option (Node × Cursor) := do
  let ended (parts : List Node) (c : Cursor) : Option (Node × Cursor) := do
    let (attributes, c) ← importAttributes r c
    let stop ← semicolon r.quietEnding c
    return (node .importStatement start c (parts ++ attributes), stop)
  let clause (c : Cursor) : Option (Node × Cursor) := do fromClause (← importClause r c)
  let required (c : Cursor) : Option Cursor := do
    let (_, c) ← binding? r c
    let c ← keyword? "require" (← mark? '=' c)
    let (_, c) ← (← mark? '(' c).operand.string?
    mark? ')' c
  let plain (c : Cursor) : Option (Node × Cursor) :=
    match c.operand.string? with
    | some (s, c) => ended [s.as .source] c
    | none =>
      match clause c with
      | some (s, c) => ended [s] c
      | none =>
        if r.typed then
          match required c with
          | some d => ended [node .importRequire c d []] d
          | none => importAlias r start c
        else none
  match if r.typed then word? c else none with
  | some (w, d) =>
    if w = "type" || w = "typeof" then
      match plain d with
      | some found => some found
      | none => plain c
    else plain c
  | none => plain c

/-- Reads what is exported by default, behind the word `default`. -/
def exportDefault (r : Reader) (c : Cursor) : Option (Node × Cursor) :=
  let start := c.operand
  let declared : Option (Node × Cursor) := do
    let (w, c) ← word? c
    let (n, c) ← declaration r true start w c
    return (n.as .declaration, c)
  match declared with
  | some found => some found
  | none => do
    let (e, c) ← r.expression { ending := true } c
    let c ← semicolon r.ending c
    return (e.as .value, c)

/-- Reads an export that only the language with types has. -/
def typedExport (r : Reader) (start c : Cursor) : Option (Node × Cursor) := do
  let ended (parts : List Node) (c : Cursor) : Option (Node × Cursor) := do
    let stop ← semicolon r.quietEnding c
    return (node .exportStatement start c parts, stop)
  match mark? '=' c with
  | some c =>
    let (e, c) ← r.expression { ending := true } c
    let stop ← semicolon r.ending c
    return (node .exportStatement start c [e], stop)
  | none =>
    match keyword? "as" c with
    | some c =>
      let (_, c) ← word? (← keyword? "namespace" c)
      ended [] c
    | none =>
      match keyword? "import" c with
      | some d =>
        let (n, c) ← importAlias r c.operand d
        return (node .exportStatement start c [n], c)
      | none =>
        let c ← keyword? "type" c
        let (_, c) ← commaList '}' (exportSpecifier r) (← mark? '{' c)
        match if r.quietEnding.omits c then none else fromClause c with
        | some (s, c) => ended [s] c
        | none => ended [] c

/-- Reads an export behind its word. -/
def exportStatement (r : Reader) (start : Cursor) (before : List Node) (c : Cursor) :
    Option (Node × Cursor) := do
  let ended (parts : List Node) (c : Cursor) : Option (Node × Cursor) := do
    let stop ← semicolon r.quietEnding c
    return (node .exportStatement start c (before ++ parts), stop)
  if r.ending.omits c then none
  match mark? '*' c with
  | some c =>
    let c ← match operatorKeyword? "as" c with
      | some c => exportName c
      | none => some c
    let (s, c) ← fromClause c
    ended [s] c
  | none =>
    match mark? '{' c with
    | some c =>
      let (_, c) ← commaList '}' (exportSpecifier r) c
      match if r.quietEnding.omits c then none else fromClause c with
      | some (s, c) => ended [s] c
      | none => ended [] c
    | none =>
      match keyword? "default" c with
      | some c =>
        let (n, c) ← exportDefault r c
        return (node .exportStatement start c (before ++ [n]), c)
      | none =>
        let declared : Option (Node × Cursor) := do
          let first := c.operand
          let (ds, d) ← decorators r first
          let (w, d) ← word? d
          let (n, c) ← if ds.isEmpty then declaration r false first w d
            else if w = "class" then classDeclaration r first ds d else none
          return (node .exportStatement start c (before ++ [n.as .declaration]), c)
        match declared with
        | some found => some found
        | none => if r.typed then typedExport r start c else none

end ScriptVet.Script.Grammar
