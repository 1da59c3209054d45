import ScriptVet.Script.Grammar.Signature

/-!
# Templates and markup

Text with expressions in it: template strings, and elements written as tags. The names of an opening
and a closing tag are not compared.
-/

namespace ScriptVet.Script.Grammar

/-- Reads a template string. -/
def template (r : Reader) (c : Cursor) : Option (Node × Cursor) := do
  let start := c
  let (parts, c) ← collect (fun c =>
    let c := c.skipTemplateText
    match c.rest with
    | '`' :: _ => some (none, c.next)
    | '\\' :: _ => c.skipEscape.map fun d => (some (c.leaf .escapeSequence d), d)
    | '$' :: '{' :: _ => do
      let start := c
      let (e, c) ← expressions r {} (c.advance 2)
      let c ← mark? '}' c
      return (some (node .substitution start c [e]), c)
    | _ => none) c.next
  return (node .template start c parts, c)

/-! ## Tags -/

/-- Moves over a name in a tag, which may have hyphens. -/
def tagWord (c : Cursor) : Option Cursor := do
  let simple (x : Char) : Bool := x.isAlphanum || x = '_' || x = '$'
  let (w, d) ← c.operand.name?
  if d.rest.head? = some '-' && w.all simple then return d.skipWhile fun x => simple x || x = '-'
  else return d

/-- Moves over the name of an element: words with dots between, or two with a colon between. -/
def tagName (c : Cursor) : Option Cursor := do
  let c ← tagWord c
  match mark? ':' c with
  | some c => tagWord c
  | none =>
    let (_, c) ← collect (fun c =>
      match mark? '.' c with
      | none => some (none, c)
      | some c => c.operator.name?.map fun (_, c) => (some (), c)) c
    return c

/-- Moves over a character written by its name or number between `&` and `;`. -/
def characterReference? (c : Cursor) : Option Cursor := do
  let upTo (limit : Nat) (p : Char → Bool) (c : Cursor) : Option Cursor :=
    let n := (c.rest.take (limit + 1)).takeWhile p |>.length
    if 0 < n && n ≤ limit && (c.rest.drop n).head? = some ';' then some (c.advance (n + 1)) else none
  match c.rest with
  | '&' :: '#' :: 'x' :: _ | '&' :: '#' :: 'X' :: _ => upTo 6 Number.isHex (c.advance 3)
  | '&' :: '#' :: _ => upTo 5 isDigit (c.advance 2)
  | '&' :: _ => upTo 30 Char.isAlpha c.next
  | _ => none

/-- Moves over the text of an attribute up to its closing quote. -/
def attributeText (quote : Char) (c : Cursor) : Option Cursor := do
  let (_, c) ← collect (fun c =>
    let c := c.skipWhile fun x => x ≠ quote && x ≠ '&'
    match c.rest with
    | '&' :: x :: _ =>
      if x = '#' || x.isAlpha then (characterReference? c).map fun c => (some (), c)
      else if x = quote then none
      else some (some (), c.advance 2)
    | x :: _ => if x = quote then some (none, c.next) else none
    | [] => none) c
  return c

/-- Reads an expression in braces, which may be missing. -/
def markupExpression (r : Reader) (c : Cursor) : Option (Node × Cursor) := do
  let start := c
  let c := start.next.operand
  match c.rest with
  | '}' :: _ => return (node .substitution start c.next [], c.next)
  | '.' :: '.' :: '.' :: _ =>
    let (e, d) ← r.expression {} (c.advance 3)
    let stop ← mark? '}' d
    return (node .substitution start stop [node .spread c d [e]], stop)
  | _ =>
    let (e, c) ← expressions r {} c
    let c ← mark? '}' c
    return (node .substitution start c [e], c)

/-- Reads the value of an attribute. -/
def attributeValue (r : Reader) (c : Cursor) : Option (Node × Cursor) :=
  let c := c.operand
  match c.rest with
  | '"' :: _ => (attributeText '"' c.next).map fun d => (node .string c d [], d)
  | '\'' :: _ => (attributeText '\'' c.next).map fun d => (node .string c d [], d)
  | '{' :: _ => markupExpression r c
  | '<' :: _ => (r.goal .element c).map fun (e, c) => (e.node, c)
  | _ => none

/-- Reads the attributes of a tag, up to its end. -/
def attributes (r : Reader) (c : Cursor) : Option (List Node × Cursor) :=
  collect (fun c =>
    let c := c.operand
    match c.rest with
    | '>' :: _ | '/' :: _ => some (none, c)
    | '{' :: _ => (markupExpression r c).map fun (e, c) => (some e, c)
    | _ => do
      let start := c
      let c ← tagWord c
      let c ← match mark? ':' c with
        | some c => tagWord c
        | none => some c
      match mark? '=' c with
      | none => return (some (node .attribute start c []), c)
      | some c =>
        let (v, c) ← attributeValue r c
        return (some (node .attribute start c [v]), c)) c

/-- Reads what stands between two tags, up to the closing one. -/
def children (r : Reader) (c : Cursor) : Option (List Node × Cursor) :=
  collect (fun c =>
    match c.rest with
    | '<' :: _ =>
      if c.next.rest.head? = some '/' then some (none, c.advance 2)
      else (r.goal .element c).map fun (e, c) => (some e.node, c)
    | '{' :: _ => (markupExpression r c).map fun (e, c) => (some e, c)
    | '&' :: _ => (characterReference? c).map fun d => (some (node .markupText c d []), d)
    | '>' :: _ | '}' :: _ | [] => none
    | _ =>
      let d := c.skipWhile fun x => !(['<', '>', '{', '}', '&'].contains x)
      some (some (node .markupText c d []), d)) c

/-- Reads an element: a tag that closes itself, or two tags with what stands between them. -/
def element (r : Reader) (c : Cursor) : Option (Node × Cursor) := do
  let start := c
  let c ← mark? '<' c
  let (before, c) ←
    if seesMark '>' c then some ([], c)
    else do
      let c ← tagName c
      attributes r c
  match pair? '/' '>' c with
  | some c => return (node .element start c before, c)
  | none =>
    let (inner, c) ← children r (← mark? '>' c)
    let c ← if seesMark '>' c then some c else tagName c
    let c ← mark? '>' c
    return (node .element start c (before ++ inner), c)

end ScriptVet.Script.Grammar
