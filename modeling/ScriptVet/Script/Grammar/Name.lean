import ScriptVet.Script.Grammar.Brackets

/-!
# Names of properties
-/

namespace ScriptVet.Script.Grammar

/-- A property's name may start here. -/
def startsPropertyName (c : Cursor) : Bool :=
  match c.operand.rest with
  | x :: _ => isNamePart x || ['"', '\'', '[', '#', '\\', '.'].contains x
  | [] => false

/-- Reads the name of a property: a word, a string, a number, or an expression in brackets. -/
def propertyName (r : Reader) (c : Cursor) : Option (Node × Cursor) :=
  let start := c.operand
  match start.rest with
  | [] => none
  | x :: _ =>
    if x = '[' then do
      let (e, c) ← r.expression {} start.next
      let c ← mark? ']' c
      return (node .computedName start c [e], c)
    else if x = '"' || x = '\'' then start.string?
    else if x = '#' then start.privateName?.map fun c => (node .privateName start c [], c)
    else if isDigit x || x = '.' then start.number?.map fun c => (node .number start c [], c)
    else start.name?.map fun (_, c) => (node .identifier start c [], c)

/-- The words before the name of a member. A word counts only when a name follows it and no semicolon
may be left out between them; otherwise it is the name itself. -/
structure Marks where
  words : List String := []
  star : Bool := false

/-- The rank of a word before a member: words stand in this order. -/
def markRank (typed : Bool) (w : String) : Option Nat :=
  match w with
  | "static" => some 3
  | "async" => some 6
  | "get" | "set" => some 7
  | "declare" | "public" | "private" | "protected" => if typed then some 1 else none
  | "abstract" => if typed then some 2 else none
  | "override" => if typed then some 4 else none
  | "readonly" | "accessor" => if typed then some 5 else none
  | _ => none

/-- Words before a member that only a method has. -/
def Marks.ofMethod (m : Marks) : Bool :=
  m.star || m.words.any fun w => w = "async" || w = "get" || w = "set"

/-- Reads the words before the name of a member. `ends` tells where a semicolon may be left out. -/
def memberMarks (r : Reader) (ends : Cursor → Bool) (c : Cursor) : Marks × Cursor :=
  go (c.left + 1) 0 [] c
where
  go : Nat → Nat → List String → Cursor → Marks × Cursor
    | 0, _, words, c => ({ words }, c)
    | fuel + 1, rank, words, c =>
      match word? c with
      | some (w, d) =>
        match markRank r.typed w with
        | some k =>
          if rank ≤ k && k < 8 && !words.contains w && !ends d then
            if startsPropertyName d then
              go fuel (if k ≤ 2 || k = 5 then k else k + 1) (w :: words) d
            else if seesMark '*' d && k < 7 then
              match mark? '*' d with
              | some e => ({ words := w :: words, star := true }, e)
              | none => ({ words }, c)
            else ({ words }, c)
          else ({ words }, c)
        | none => ({ words }, c)
      | none =>
        match mark? '*' c with
        | some d => ({ words, star := true }, d)
        | none => ({ words }, c)

end ScriptVet.Script.Grammar
