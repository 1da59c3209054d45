import ScriptVet.Rule.Registry

/-!
# What the rules find in a script

Each rule reports its first match. Within a category a text that was found before is not reported again.
-/

namespace ScriptVet

/-- Something that a rule found: its category, its place among the category's rules, the text found and
where it starts. -/
structure Violation where
  category : Category
  index : Nat
  text : List Char
  offset : Nat
  deriving DecidableEq

namespace Registry

/-- What the rules of one category find. `seen` holds the texts found before. -/
def scanRules (category : Category) (text : Text) :
    Nat → List (List Char) → List Rule → Except RuleError (List Violation)
  | _, _, [] => .ok []
  | index, seen, r :: rest => do
    match ← r.search text with
    | none => scanRules category text (index + 1) seen rest
    | some m =>
      if seen.contains m.text then scanRules category text (index + 1) seen rest
      else
        let more ← scanRules category text (index + 1) (m.text :: seen) rest
        return ⟨category, index, m.text, m.start⟩ :: more

/-- What the rules find, by category and then by rule. -/
def violations (g : Registry) (text : Text) : Except RuleError (List Violation) := do
  let found ← g.groups.mapM fun (c, rules) => scanRules c text 0 [] rules
  return found.flatten

end Registry

end ScriptVet
