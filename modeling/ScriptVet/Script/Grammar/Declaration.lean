import ScriptVet.Script.Grammar.Operand
import ScriptVet.Script.Grammar.Types

/-!
# Declarations

Variables, functions, classes, and the declarations of types.
-/

namespace ScriptVet.Script.Grammar

/-! ## Variables -/

/-- Reads one variable and its value. -/
def declarator (r : Reader) (c : Cursor) : Option (Node × Cursor) := do
  let start := c.operand
  let (b, c) ← bound r c
  let c :=
    match if r.typed then mark? '!' c else none with
    | some d => if seesMark ':' d then d else c
    | none => c
  let c ← ascription r c true
  let (value, c) ← initializer r { ending := true } c
  return (node .declarator start c (b :: value), c)

/-- Reads variables behind the word that declares them, up to the end of the statement. -/
def boundVariables (r : Reader) (start c : Cursor) : Option (Node × Cursor) := do
  let (ds, stop) ← commaSeparated (declarator r) c
  let valued := ds.getLast?.any fun d => 1 < d.children.length
  let c ← semicolon (if valued then r.ending else r.quietEnding) stop
  return (node .variableDeclaration start stop ds, c)

/-! ## Types -/

/-- Reads the declaration of a name for a type, behind the word `type`. -/
def typeAlias (r : Reader) (start c : Cursor) : Option (Node × Cursor) := do
  let (_, c) ← word? c
  let c ← typeParameters r c
  let (_, c) ← r.type (← mark? '=' c) true
  let stop ← semicolon r.quietEnding c
  return (node .typeDeclaration start c [], stop)

/-- Reads the declaration of an interface, behind its word. -/
def interface (r : Reader) (start c : Cursor) : Option (Node × Cursor) := do
  let (_, c) ← word? c
  let c ← typeParameters r c
  let c ← match operatorKeyword? "extends" c with
    | some c => (commaSeparated (fun c => r.type c) c).map Prod.snd
    | none => some c
  let c ← objectType r c
  return (node .typeDeclaration start c [], c)

/-- Reads the declaration of an enumeration, behind its word. -/
def enumeration (r : Reader) (start c : Cursor) : Option (Node × Cursor) := do
  let (_, c) ← word? c
  let case (c : Cursor) : Option (List Node × Cursor) := do
    let (name, c) ← propertyName r c
    let (value, c) ← initializer r {} c
    return (name :: value, c)
  let (cases, c) ← commaList '}' case (← mark? '{' c)
  return (node .typeDeclaration start c cases.flatten, c)

/-- Reads the declaration of a namespace, behind its word: a name or a string, and a block that may be
missing. -/
def namespaceTail (r : Reader) (start c : Cursor) : Option (Node × Cursor) := do
  let c ← match c.operand.string? with
    | some (_, c) => some c
    | none => do
      let (_, c) ← word? c
      dottedNames c
  if seesMark '{' c then
    let (b, c) ← block r c
    return (node .namespace start c [b], c)
  else return (node .namespace start c [], c)

/-- Reads a name for another name, behind the word `import`. -/
def importAlias (r : Reader) (start c : Cursor) : Option (Node × Cursor) := do
  let (_, c) ← word? c
  let (_, c) ← word? (← mark? '=' c)
  let c ← dottedNames c
  let stop ← semicolon r.quietEnding c
  return (node .importAlias start c [], stop)

/-! ## Declarations -/

/-- Reads a function or a class that is declared, unless what follows it makes it part of an
expression. -/
def closedDeclaration (r : Reader) (found : Option (Node × Cursor)) : Option (Node × Cursor) := do
  let (n, c) ← found
  if n.kind ≠ .functionSignature && continuesExpression r c then none
  else return (n, ← afterBlock r c)

/-- Reads a class that is declared, behind the word `class`. -/
def classDeclaration (r : Reader) (start : Cursor) (before : List Node) (c : Cursor) :
    Option (Node × Cursor) := do
  let _ ← className? r c
  closedDeclaration r (classTail r .classDeclaration start before c)

/-- Reads a declaration that only the language with types has. `inner` reads what may be declared
behind the word `declare`. -/
def typedDeclaration (r : Reader) (inner : Cursor → Option (Node × Cursor)) (start : Cursor)
    (w : String) (c : Cursor) : Option (Node × Cursor) :=
  let ended (found : Option (Node × Cursor)) : Option (Node × Cursor) := do
    let (n, c) ← found
    return (n, ← afterBlock r c)
  match w with
  | "type" => typeAlias r start c
  | "interface" => ended (interface r start c)
  | "enum" => ended (enumeration r start c)
  | "namespace" | "module" => ended (namespaceTail r start c)
  | "abstract" => do classDeclaration r start [] (← keyword? "class" c)
  | "import" => importAlias r start c
  | "declare" =>
    match keyword? "global" c with
    | some c => do
      let (b, c) ← block r c
      ended (some (node .ambient start c [b], c))
    | none => do
      let (n, c) ← inner c
      return (node .ambient start c [n], c)
  | _ => none

/-- Reads a declaration behind its first word, which is given. With `split` set, the end of a line
behind a word that could be a name ends a statement there. -/
def declarationAfter (r : Reader) (split : Bool) (inner : Cursor → Option (Node × Cursor))
    (start : Cursor) (w : String) (c : Cursor) : Option (Node × Cursor) :=
  let divided := split && r.ending.omits c
  match w with
  | "var" => boundVariables r start c
  | "const" =>
    match if r.typed then keyword? "enum" c else none with
    | some c => do
      let (n, c) ← enumeration r start c
      return (n, ← afterBlock r c)
    | none => boundVariables r start c
  | "let" => if divided then none else boundVariables r start c
  | "function" => closedDeclaration r (functionDeclaration r start c)
  | "class" => classDeclaration r start [] c
  | "async" =>
    if divided then none
    else do
      let c ← keyword? "function" c
      closedDeclaration r (functionDeclaration r start c)
  | w => if r.typed && !divided then typedDeclaration r inner start w c else none

/-- Reads a declaration that is no other declaration's part. -/
def innerDeclaration (r : Reader) (c : Cursor) : Option (Node × Cursor) := do
  let start := c.operand
  let (w, c) ← word? c
  declarationAfter r false (fun _ => none) start w c

/-- Reads a declaration behind its first word. -/
def declaration (r : Reader) (split : Bool) (start : Cursor) (w : String) (c : Cursor) :
    Option (Node × Cursor) :=
  declarationAfter r split (innerDeclaration r) start w c

end ScriptVet.Script.Grammar
