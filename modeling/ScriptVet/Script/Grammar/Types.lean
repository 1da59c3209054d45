import ScriptVet.Script.Grammar.Name
import ScriptVet.Script.Grammar.Signature

/-!
# Types

Only the extent of a type matters: it holds nothing that a query asks for. A rule here moves a cursor
over a type.
-/

namespace ScriptVet.Script.Grammar

/-! ## Members of an object type -/

/-- Moves over the brackets of an index or a mapped type: a name with the type of keys, or a name that
runs through a type. -/
def indexKey (r : Reader) (c : Cursor) : Option Cursor := do
  let (_, c) ← word? (← mark? '[' c)
  match mark? ':' c with
  | some c =>
    let (_, c) ← r.type c
    mark? ']' c
  | none =>
    let (_, c) ← r.type (← operatorKeyword? "in" c)
    let c ← match operatorKeyword? "as" c with
      | some c => (r.type c).map Prod.snd
      | none => some c
    mark? ']' c

/-- Moves over an index signature: keys in brackets and the type of their values. A sign may stand
before `readonly` and before the question mark. -/
def indexSignature (r : Reader) (c : Cursor) : Option Cursor := do
  let signed (c : Cursor) : Option Cursor :=
    match mark? '-' c with
    | some c => some c
    | none => mark? '+' c
  let unsigned := (signed c).getD c
  let c ← match keyword? "readonly" unsigned with
    | some c => some c
    | none => if unsigned.pos = c.pos then some c else none
  let c ← indexKey r c
  let c := (mark? '?' ((signed c).getD c)).getD c
  let (_, c) ← r.type (← mark? ':' c) true
  return c

/-- Moves over a signature that makes an object with `new`. -/
def constructSignature (r : Reader) (c : Cursor) : Option Cursor := do
  let c := (keyword? "abstract" c).getD c
  let c ← keyword? "new" c
  let (_, c) ← signature r c
  return c

/-- Moves over a property or a method of an object type. -/
def memberSignature (r : Reader) (c : Cursor) : Option Cursor := do
  let (_, c) := memberMarks r r.quietEnding.omits c
  let (_, c) ← propertyName r c
  let c := (mark? '?' c).getD c
  if seesMark '(' c || seesMark '<' c then (signature r c).map Prod.snd
  else ascription r c true

/-- Moves over a member of an object type. -/
def typeMember (r : Reader) (c : Cursor) : Option Cursor :=
  let alternatives : List (Cursor → Option Cursor) :=
    [fun c => if seesMark '(' c || seesMark '<' c then (signature r c).map Prod.snd else none,
      constructSignature r, indexSignature r, memberSignature r]
  alternatives.findSome? fun rule => rule c

/-- Moves over an object type. A comma, a semicolon or the end of a line separates its members. -/
def objectType (r : Reader) (c : Cursor) : Option Cursor := do
  let c ← mark? '{' c
  let separator (c : Cursor) : Option Cursor :=
    match mark? ',' c with
    | some c => some c
    | none => mark? ';' c
  let c := (separator c).getD c
  let (_, c) ← collect (fun c =>
    if seesMark '}' c then some (none, c)
    else do
      let c ← typeMember r c
      match separator c with
      | some c => return (some (), c)
      | none =>
        if seesMark '}' c || r.quietEnding.omits c then return (some (), c)
        else none) c
  mark? '}' c

/-! ## Types without operators -/

/-- Moves over a member of a tuple: a type, perhaps with a name, three dots or a question mark. -/
def tupleMember (r : Reader) (c : Cursor) : Option (Unit × Cursor) := do
  let c := c.operand
  let c := if c.looksAt ['.', '.', '.'] then c.advance 3 else c
  let named : Option Cursor := do
    let (_, c) ← word? c
    let c := (mark? '?' c).getD c
    let (_, c) ← r.type (← mark? ':' c)
    return c
  match named with
  | some c => return ((), c)
  | none =>
    let (_, c) ← r.type c
    return ((), (mark? '?' c).getD c)

/-- Moves over a function type from its type parameters on. -/
def functionType (r : Reader) (c : Cursor) : Option Cursor := do
  let c ← typeParameters r c
  let (_, c) ← parameters r c
  resultType r (← pair? '=' '>' c)

/-- Moves over names behind dots. -/
def dottedNames (c : Cursor) : Option Cursor := do
  let (_, c) ← collect (fun c =>
    match mark? '.' c with
    | none => some (none, c)
    | some c =>
      match c.operator.privateName? with
      | some c => some (some (), c)
      | none => c.operator.name?.map fun (_, c) => (some (), c)) c
  return c

/-- Moves over type arguments, when some follow. -/
def appliedTypes (r : Reader) (c : Cursor) : Option Cursor :=
  if seesMark '<' c then typeArguments? r c else some c

/-- Moves over a module named in a type, behind the word `import`. -/
def importedType (r : Reader) (c : Cursor) : Option Cursor := do
  let start := c.operator
  let (_, c) ← arguments r start (← mark? '(' c)
  appliedTypes r (← dottedNames c)

/-- Moves over a template type: text with types in it. -/
def templateType (r : Reader) (c : Cursor) : Option Cursor := do
  let (_, c) ← collect (fun c =>
    let c := c.skipTemplateText
    match c.rest with
    | '`' :: _ => some (none, c.next)
    | '\\' :: _ => c.skipEscape.map fun c => (some (), c)
    | '$' :: '{' :: _ => do
      let (_, c) ← r.type (c.advance 2)
      let c ← mark? '}' c
      return (some (), c)
    | _ => none) c
  return c

/-- A type may start here. -/
def startsType (c : Cursor) : Bool :=
  match c.operand.rest with
  | x :: _ => isNamePart x || ['{', '[', '(', '<', '"', '\'', '`', '-'].contains x
  | [] => false

/-- Moves over a type that starts with a word, behind that word. -/
def namedType (r : Reader) (w : String) (c : Cursor) : Option Cursor :=
  let name : Option Cursor := do appliedTypes r (← dottedNames c)
  match w with
  | "new" => if seesMark '(' c || seesMark '<' c then functionType r c else name
  | "abstract" =>
    match keyword? "new" c with
    | some c => functionType r c
    | none => name
  | "import" => importedType r c
  | "typeof" => do
    let (w, c) ← word? c
    if w = "import" then importedType r c
    else appliedTypes r (← dottedNames c)
  | "infer" =>
    match word? c with
    | none => name
    | some (_, c) =>
      match operatorKeyword? "extends" c with
      | some c => (r.type c).map Prod.snd
      | none => some c
  | _ => name

/-- Moves over a type up to the operators that join types. -/
def typeOperand (r : Reader) (c : Cursor) : Option Cursor :=
  let c := c.operand
  match c.rest with
  | [] => none
  | x :: _ =>
    match x with
    | '(' =>
      match functionType r c with
      | some c => some c
      | none => do
        let (_, c) ← r.type c.next
        mark? ')' c
    | '<' => functionType r c
    | '{' => objectType r c
    | '[' => (commaList ']' (tupleMember r) c.next).map Prod.snd
    | '"' | '\'' => c.string?.map Prod.snd
    | '`' => templateType r c.next
    | '*' => some c.next
    | '-' | '+' => c.next.operator.number?
    | _ =>
      if isDigit x || x = '.' then c.number?
      else do
        let (w, c) ← c.name?
        namedType r (String.ofList w) c

/-! ## Types -/

/-- Words before a type. -/
def typeWord (w : String) : Bool :=
  match w with
  | "keyof" | "readonly" | "unique" => true
  | _ => false

/-- Moves over the words and marks before a type. -/
def typeMarks (c : Cursor) : Cursor :=
  go (c.left + 1) c
where
  go : Nat → Cursor → Cursor
    | 0, c => c
    | fuel + 1, c =>
      let c := c.operand
      match c.rest with
      | '|' :: _ | '&' :: _ | '?' :: _ => go fuel c.next
      | _ =>
        match word? c with
        | some (w, d) => if typeWord w && startsType d then go fuel d else c
        | none => c

/-- Moves over brackets behind a type: of arrays, and of look-ups. -/
def typeBrackets (r : Reader) (ends : Cursor → Bool) (c : Cursor) : Option Cursor :=
  go (c.left + 1) c
where
  go : Nat → Cursor → Option Cursor
    | 0, c => some c
    | fuel + 1, c =>
      if ends c then some c
      else
        match mark? '[' c with
        | none => some c
        | some d =>
          match mark? ']' d with
          | some c => go fuel c
          | none =>
            match r.type d with
            | none => none
            | some (_, c) =>
              match mark? ']' c with
              | some c => go fuel c
              | none => none

/-- Moves over a type. With `ending` set a semicolon may be left out behind it, and `operator` tells
whether an operator may follow. -/
def typeBody (r : Reader) (ending operator : Bool) (c : Cursor) : Option Cursor :=
  go (c.left + 1) c
where
  ends (c : Cursor) : Bool :=
    ending && ({ language := r.language, operator } : Ending).omits c
  go : Nat → Cursor → Option Cursor
    | 0, _ => none
    | fuel + 1, c =>
      match (typeOperand r (typeMarks c)).bind (typeBrackets r ends) with
      | none => none
      | some c =>
        if ends c then some c
        else
          let d := c.operator
          match d.rest with
          | '|' :: '|' :: _ | '&' :: '&' :: _ => some c
          | '|' :: '=' :: _ | '&' :: '=' :: _ => some c
          | '|' :: _ | '&' :: _ => go fuel d.next
          | _ =>
            match operatorKeyword? "extends" c with
            | none => some c
            | some d =>
              let branches : Option Cursor := do
                let (_, d) ← r.type d
                let (_, d) ← r.type (← mark? '?' d)
                mark? ':' d
              match branches with
              | some d => go fuel d
              | none => some c

end ScriptVet.Script.Grammar
