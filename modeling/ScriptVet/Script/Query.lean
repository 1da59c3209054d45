import ScriptVet.Script.Escape
import ScriptVet.Script.Tree

/-!
# What is asked of a script

The modules that a script imports, whether it exports a function to run, and the first property of a
name. Imports and exports count at the top of the script only; properties count anywhere.
-/

namespace ScriptVet.Script

/-- A module that is imported: its name and the line of the import. -/
structure Import where
  module : Text
  line : Nat
  deriving DecidableEq

/-- A property of an object: its key and value as written, and the line of its key. -/
structure Property where
  key : List Char
  value : List Char
  line : Nat
  deriving DecidableEq

/-- The source text of a span. -/
def Span.slice (source : List Char) (s : Span) : List Char := (source.drop s.start).take (s.stop - s.start)

/-- The line of a position, counted from one. Only a line feed ends a line. -/
def lineAt (source : List Char) (position : Nat) : Nat := (source.take position).count '\n' + 1

/-- The column of a position, counted from one. A character counts as many times as it has bytes in UTF-8. -/
def columnAt (source : List Char) (position : Nat) : Nat :=
  ((source.take position).reverse.takeWhile (· ≠ '\n')).foldl (fun n c => n + c.utf8Size) 1

namespace Node

/-- The value of a string: its fragments as written and the values of its escape sequences. -/
def stringValue (source : List Char) (n : Node) : Except EscapeError Text := do
  let parts ← n.children.mapM fun piece =>
    let text := Text.ofChars (piece.span.slice source)
    if piece.kind = .stringFragment then .ok text
    else if piece.kind = .escapeSequence then Escape.decode text
    else .ok []
  return parts.flatten

/-- The string that names the module of an import. -/
def moduleString? (n : Node) : Option Node :=
  if n.kind = .importStatement then (n.child? .source).filter (·.kind = .string) else none

/-- The modules that a script imports, in source order. -/
def imports (source : List Char) (root : Node) : Except EscapeError (List Import) :=
  (root.children.filter fun n => n.moduleString?.isSome).mapM fun n => do
    let module ← ((n.moduleString?.map (stringValue source)).getD (.ok []))
    return { module, line := lineAt source n.span.start }

/-- A statement that exports a function to run: a function declaration, or a function that is the
default export. -/
def exportsFunction (n : Node) : Bool :=
  n.kind = .exportStatement &&
    (((n.child? .declaration).any fun d =>
        d.kind = .functionDeclaration || d.kind = .generatorDeclaration) ||
      ((n.child? .value).any fun v =>
        v.kind = .functionExpression || v.kind = .generatorExpression))

/-- The script exports a function to run. -/
def hasExportedFunction (root : Node) : Bool := root.children.any exportsFunction

/-- The node is a property whose key is written as given. -/
def hasKey (source key : List Char) (n : Node) : Bool :=
  n.kind = .pair && (n.child? .key).any fun k => k.span.slice source = key

/-- The property that a pair describes. -/
def toProperty (source key : List Char) (n : Node) : Property :=
  { key
    value := ((n.child? .value).map fun v => v.span.slice source).getD []
    line := lineAt source (((n.child? .key).map fun k => k.span.start).getD n.span.start) }

/-- The first property whose key is written as given, in the order of `walk`. -/
def firstProperty? (source key : List Char) (root : Node) : Option Property :=
  (root.walk.find? (hasKey source key)).map (toProperty source key)

end Node

end ScriptVet.Script
