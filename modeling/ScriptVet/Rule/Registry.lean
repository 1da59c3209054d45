import ScriptVet.Regex.Parser
import ScriptVet.Rule.Category
import ScriptVet.Text.Encode
import ScriptVet.Text.Quoted
import ScriptVet.Text.Utf8

/-!
# Rules

A rule looks for a regular expression in the text of a script. A registry holds the rules of all
categories; within a category they keep the order in which they were defined.
-/

namespace ScriptVet

/-- A rule as it is written down. -/
structure RuleDefinition where
  id : Text
  category : Category
  name : Text
  expression : Text

/-- A rule with its expression ready to run, unless it was never prepared. -/
structure Rule extends RuleDefinition where
  regex : Option Regex

/-- Where a rule found something: the text found, its start and its end. -/
structure Match where
  text : List Char
  start : Nat
  stop : Nat
  deriving DecidableEq

/-- Why a rule could not be applied. -/
inductive RuleError where
  /-- The expression was never prepared. -/
  | notCompiled (id : Text)
  /-- The text has no UTF-8 form. -/
  | unencodable (bad : Unencodable)
  deriving DecidableEq

/-- The message about a rule that could not be applied. -/
def RuleError.message : RuleError → Text
  | notCompiled id => Text.ofString "Pattern " ++ id ++ Text.ofString " was not compiled"
  | unencodable bad => bad.message

/-- Why a rule could not be prepared. -/
inductive CompileError where
  /-- The expression has a fault. -/
  | rejected (id : Text) (reason : List Char)
  /-- The expression has no UTF-8 form. -/
  | unencodable (bad : Unencodable)
  deriving DecidableEq

/-- The message about a rule that could not be prepared. -/
def CompileError.message : CompileError → Text
  | rejected id reason =>
    Text.ofString "Pattern " ++ id ++ Text.ofString " failed to compile: " ++
      Text.ofChars (Text.quotedBytes (Utf8.encode reason))
  | unencodable bad => bad.message

namespace Rule

/-- Prepares a rule with a compiler of expressions. -/
def compile (compiler : Regex.Compiler) (d : RuleDefinition) : Except CompileError Rule :=
  match d.expression.encode with
  | .error bad => .error (.unencodable bad)
  | .ok expression =>
    match compiler expression with
    | .error reason => .error (.rejected d.id reason)
    | .ok regex => .ok { d with regex := some regex }

/-- The first place in a text where the rule finds something. -/
def search (r : Rule) (text : Text) : Except RuleError (Option Match) :=
  match r.regex with
  | none => .error (.notCompiled r.id)
  | some regex =>
    match text.encode with
    | .error bad => .error (.unencodable bad)
    | .ok cs =>
      .ok <| (regex.search cs).map fun (start, stop) => ⟨(cs.drop start).take (stop - start), start, stop⟩

end Rule

/-- The rules of all categories. -/
structure Registry where
  rules : List Rule

namespace Registry

/-- Prepares rules with a compiler of expressions. The first rule with a fault is reported. -/
def build (compiler : Regex.Compiler) (definitions : List RuleDefinition) : Except CompileError Registry := do
  return ⟨← definitions.mapM (Rule.compile compiler)⟩

/-- The rules of a category in order. -/
def forCategory (g : Registry) (c : Category) : List Rule := g.rules.filter fun r => r.category = c

/-- The categories in order, each with its rules. -/
def groups (g : Registry) : List (Category × List Rule) := Category.all.map fun c => (c, g.forCategory c)

/-- The number of rules. -/
def size (g : Registry) : Nat := g.rules.length

end Registry

end ScriptVet
