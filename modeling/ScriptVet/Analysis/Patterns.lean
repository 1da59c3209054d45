import ScriptVet.Analysis.Verdict
import ScriptVet.Rule.Scan

/-!
# Patterns in a script

The rules look at the text of a script and not at its tree, so that they also see what is hidden in
strings, comments and text that no rule of the grammar reads.
-/

namespace ScriptVet.Patterns

/-- The error about something that a rule found. -/
def violationError (v : Violation) : Text :=
  Text.ofString v.category.description ++ Text.ofString " (found: " ++ Text.ofChars v.text ++ Text.ofString ")"

/-- Applies all rules to a script. A rule that cannot be applied is the only error then. -/
def analyze (registry : Registry) (script : Text) : Logged Verdict :=
  match registry.violations script with
  | .ok found => ⟨⟨found.map violationError⟩, found.map fun v => .patternViolation v.category⟩
  | .error e =>
    ⟨⟨[(Failure.rule e).report "Security pattern analysis failed"]⟩, [.analysisFailed .pattern (.rule e)]⟩

end ScriptVet.Patterns
