import ScriptVet.Script.Grammar.Expression
import ScriptVet.Script.Grammar.Modules

/-!
# Statements
-/

namespace ScriptVet.Script.Grammar

/-- Reads expressions and the end of their statement. -/
def expressionStatement (r : Reader) (c : Cursor) : Option (Node × Cursor) := do
  let start := c.operand
  let (e, c) ← expressions r { ending := true } c
  let stop ← semicolon r.ending c
  return (node .expressionStatement start c [e], stop)

/-- Reads a block that is a statement. -/
def blockStatement (r : Reader) (c : Cursor) : Option (Node × Cursor) := do
  let (b, c) ← block r c
  return (b, ← afterBlock r c)

/-! ## Branches and loops -/

/-- Reads a choice, behind the word `if`. -/
def ifStatement (r : Reader) (start c : Cursor) : Option (Node × Cursor) := do
  let (test, c) ← group r c
  let (body, c) ← r.statement c
  match keyword? "else" c with
  | some c =>
    let (other, c) ← r.statement c
    return (node .ifStatement start c [test, body, other], c)
  | none => return (node .ifStatement start c [test, body], c)

/-- Reads a loop with a test before its body, behind the word `while`, or a statement of the same shape
behind the word `with`. -/
def testedStatement (r : Reader) (kind : Kind) (start c : Cursor) : Option (Node × Cursor) := do
  let (test, c) ← group r c
  let (body, c) ← r.statement c
  return (node kind start c [test, body], c)

/-- Reads a loop with a test behind its body, behind the word `do`. -/
def doStatement (r : Reader) (start c : Cursor) : Option (Node × Cursor) := do
  let (body, c) ← r.statement c
  let (test, c) ← group r (← keyword? "while" c)
  let found := node .doStatement start c [body, test]
  match semicolon r.quietEnding c with
  | some c => return (found, c)
  | none => return (found, ← afterBlock r c)

/-- Reads what a loop over the parts of a value binds. -/
def loopTarget (r : Reader) (c : Cursor) : Option (List Node × Cursor) :=
  let declared : Option (List Node × Cursor) := do
    let (w, c) ← word? c
    if w = "var" then
      let (b, c) ← bound r c
      let (value, c) ← initializer r { beforeIn := true } c
      return (b :: value, c)
    else if w = "let" || w = "const" then
      let (b, c) ← bound r c
      return ([b], c)
    else none
  let iterates (found : List Node × Cursor) : Bool := seesWord "in" found.2 || seesWord "of" found.2
  match declared.filter iterates with
  | some found => some found
  | none => do
    let (p, c) ← operand r { beforeIn := true } c
    if p.assignable then return ([p.target.getD p.node], c) else none

/-- Reads the head of a loop over the parts of a value, behind its opening parenthesis. -/
def loopHead (r : Reader) (c : Cursor) : Option (List Node × Cursor) := do
  let (left, c) ← loopTarget r c
  let (w, c) ← operatorWord? c
  if w = "in" || w = "of" then
    let (e, c) ← expressions r {} c
    return (left ++ [e], ← mark? ')' c)
  else none

/-- Reads the head of a loop with a start, a test and a step, behind its opening parenthesis. -/
def stepHead (r : Reader) (c : Cursor) : Option (List Node × Cursor) := do
  let clause (c : Cursor) : Option (List Node × Cursor) :=
    match mark? ';' c with
    | some c => some ([], c)
    | none => do
      let (e, c) ← expressions r {} c
      return ([e], ← mark? ';' c)
  let declared : Option (List Node × Cursor) := do
    let first := c.operand
    let (w, d) ← word? c
    if w = "var" || w = "let" || w = "const" then
      let (n, c) ← boundVariables r first d
      return ([n], c)
    else none
  let (start, c) ← match declared with
    | some found => some found
    | none => clause c
  let (test, c) ← clause c
  match mark? ')' c with
  | some c => return (start ++ test, c)
  | none =>
    let (step, c) ← expressions r {} c
    return (start ++ test ++ [step], ← mark? ')' c)

/-- Reads a loop, behind the word `for`. -/
def forStatement (r : Reader) (start c : Cursor) : Option (Node × Cursor) := do
  let awaited := keyword? "await" c
  let inner ← mark? '(' (awaited.getD c)
  let (kind, head, c) ← match loopHead r inner with
    | some (head, c) => some (Kind.forInStatement, head, c)
    | none =>
      if awaited.isSome then none
      else (stepHead r inner).map fun (head, c) => (Kind.forStatement, head, c)
  let (body, c) ← r.statement c
  return (node kind start c (head ++ [body]), c)

/-! ## Cases and handlers -/

/-- Reads the statements of a case, up to the next one or the closing brace. -/
def caseBody (r : Reader) (c : Cursor) : Option (List Node × Cursor) :=
  collect (fun c =>
    let d := c.operand
    if d.rest.head? = some '}' || (keyword? "case" d).isSome || (keyword? "default" d).isSome then
      some (none, c)
    else (r.statement c).map fun (s, c) => (some s, c)) c

/-- Reads a choice between cases, behind the word `switch`. -/
def switchStatement (r : Reader) (start c : Cursor) : Option (Node × Cursor) := do
  let (test, c) ← group r c
  let (cases, c) ← collect (fun c =>
    let start := c.operand
    if start.rest.head? = some '}' then some (none, start.next)
    else do
      let (test, c) ← match keyword? "default" start with
        | some c => some ([], c)
        | none => do
          let (e, c) ← expressions r {} (← keyword? "case" start)
          some ([e], c)
      let (body, c) ← caseBody r (← mark? ':' c)
      return (some (node .switchCase start c (test ++ body)), c)) (← mark? '{' c)
  return (node .switchStatement start c (test :: cases), c)

/-- Reads a block and its handlers, behind the word `try`. Both handlers may be missing. -/
def tryStatement (r : Reader) (start c : Cursor) : Option (Node × Cursor) := do
  let (body, c) ← block r c
  let (handler, c) ← match keyword? "catch" c with
    | none => some ([], c)
    | some c => do
      let (param, c) ← match mark? '(' c with
        | none => some ([], c)
        | some c => do
          let (b, c) ← bound r c
          let c ← mark? ')' (← ascription r c)
          some ([b], c)
      let (b, c) ← block r c
      some (param ++ [b], c)
  let (last, c) ← match keyword? "finally" c with
    | none => some ([], c)
    | some c => (block r c).map fun (b, c) => ([b], c)
  return (node .tryStatement start c (body :: handler ++ last), ← afterBlock r c)

/-! ## Jumps -/

/-- Reads a jump to a label that may be missing, behind its word. -/
def jumpStatement (r : Reader) (start c : Cursor) : Option (Node × Cursor) :=
  match semicolon r.quietEnding c with
  | some stop => some (node .jumpStatement start c [], stop)
  | none => do
    let (_, c) ← binding? r c
    let stop ← semicolon r.quietEnding c
    return (node .jumpStatement start c [], stop)

/-- Reads a statement of one word with expressions that may be missing when `optional` is set. -/
def valueStatement (r : Reader) (kind : Kind) (optional : Bool) (start c : Cursor) :
    Option (Node × Cursor) :=
  match if optional then semicolon r.quietEnding c else none with
  | some stop => some (node kind start c [], stop)
  | none => do
    let (e, c) ← expressions r { ending := true } c
    let stop ← semicolon r.ending c
    return (node kind start c [e], stop)

/-! ## Statements -/

/-- Reads a statement that starts with a word, behind that word. -/
def wordStatement (r : Reader) (start : Cursor) (w : String) (c : Cursor) : Option (Node × Cursor) :=
  let otherwise (found : Option (Node × Cursor)) : Option (Node × Cursor) :=
    match found with
    | some found => some found
    | none => expressionStatement r start
  match w with
  | "if" => ifStatement r start c
  | "for" => forStatement r start c
  | "while" => testedStatement r .whileStatement start c
  | "with" => testedStatement r .withStatement start c
  | "do" => doStatement r start c
  | "switch" => switchStatement r start c
  | "try" => tryStatement r start c
  | "break" | "continue" => jumpStatement r start c
  | "return" => valueStatement r .returnStatement true start c
  | "throw" => valueStatement r .throwStatement false start c
  | "debugger" => (semicolon r.quietEnding c).map fun stop => (node .jumpStatement start c [], stop)
  | "import" => otherwise (importStatement r start c)
  | "export" => otherwise (exportStatement r start [] c)
  | "var" | "const" => declaration r true start w c
  | _ =>
    if !reserved w && w ≠ "yield" && seesMark ':' c then do
      let c ← mark? ':' c
      let (body, c) ← r.statement c
      return (node .labeledStatement start c [body], c)
    else otherwise (declaration r true start w c)

/-- Reads a class or an export behind decorators. -/
def decoratedStatement (r : Reader) (start : Cursor) : Option (Node × Cursor) := do
  let (ds, c) ← decorators r start
  let (w, d) ← word? c
  match w with
  | "export" => exportStatement r start ds d
  | "abstract" => do classDeclaration r start ds (← keyword? "class" d)
  | "class" =>
    match classDeclaration r start ds d with
    | some found => some found
    | none => expressionStatement r start
  | _ => none

/-- Reads a statement. -/
def statementBody (r : Reader) (c : Cursor) : Option (Node × Cursor) :=
  let start := c.operand
  match start.rest with
  | ';' :: _ => some (node .emptyStatement start start.next [], start.next)
  | '{' :: _ =>
    match if mayBeObject r start then expressionStatement r start else none with
    | some found => some found
    | none => blockStatement r start
  | '@' :: _ => decoratedStatement r start
  | _ =>
    match word? start with
    | some (w, c) => wordStatement r start w c
    | none => expressionStatement r start

end ScriptVet.Script.Grammar
