import ScriptVet.Script.Grammar.Statement

/-!
# Reading a script

`Grammar.read` closes the circle of the grammar's rules. Every rule that comes back to the circle
does so after at most a few steps that read nothing, so fuel in proportion to the length of the script is
enough.

A script that the grammar does not read becomes a tree with a fault in it.
-/

namespace ScriptVet.Script

namespace Grammar

/-- Reads a goal. The fuel bounds how deep goals stand in each other. -/
def read (language : Language) : Nat → Goal → Cursor → Option (Piece × Cursor)
  | 0, _, _ => none
  | fuel + 1, goal, c =>
    let r : Reader := { language, goal := read language fuel }
    match goal with
    | .expression place => expressionBody r place c
    | .statement => (statementBody r c).map fun (n, c) => (plain n, c)
    | .element => (element r c).map fun (n, c) => (plain n, c)
    | .type ending operator =>
      let start := c.operand
      (typeBody r ending operator c).map fun c => (plain (node .type start c []), c)

/-- How deep goals may stand in each other in a script of a given length. -/
def depth (length : Nat) : Nat := 8 * (length + 1) + 64

/-- Moves over a first line that names the program to run the script with. -/
def skipFirstLine (c : Cursor) : Cursor :=
  let d := c.operand
  if d.looksAt ['#', '!'] then d.skipWhile (· ≠ '\n') else c

/-- Reads the statements of a script. -/
def script (language : Language) (cs : List Char) : Option (List Node) := do
  let r : Reader := { language, goal := read language (depth cs.length) }
  let (ss, _) ← collect (fun c =>
    let c := c.operand
    if c.atEnd then some (none, c)
    else (r.statement c).map fun (s, c) => (some s, c)) (skipFirstLine (.start cs))
  return ss

end Grammar

/-- The tree of a script. -/
def parse (language : Language) (cs : List Char) : Node :=
  let span : Span := ⟨0, cs.length⟩
  match if cs.contains '\x00' then none else Grammar.script language cs with
  | some statements => .mk .program none span statements
  | none => .mk .program none span [.mk .error none span []]

end ScriptVet.Script
