import ScriptVet.Script.Language
import ScriptVet.Script.Query
import ScriptVet.Text.Encode
import ScriptVet.Text.Quoted

/-!
# Parsed scripts

The tree of a script comes from a parser, which is not chosen here. A parsed script holds its tree until it is
released. After that every question about the tree fails, and the text of any node is empty.
-/

namespace ScriptVet.Script

/-- A way to read scripts. It gives a tree for every script: what it cannot read, and what it misses, is a fault in the
tree. -/
abbrev Parser := Language → List Char → Node

/-- Why a script could not be parsed, or a question about it has no answer. -/
inductive ScriptError where
  /-- No script is written in a language of this name. -/
  | unsupportedLanguage (name : Text)
  /-- The script has no UTF-8 form. -/
  | unencodable (bad : Unencodable)
  /-- The script does not follow the grammar. -/
  | syntaxError (line column : Nat)
  /-- A string has no value. -/
  | escape (e : EscapeError)
  /-- The tree is gone. -/
  | released
  deriving DecidableEq

/-- The message about a failure. -/
def ScriptError.message : ScriptError → Text
  | unsupportedLanguage name =>
    let supported := ", ".intercalate (Language.all.map Language.name)
    Text.ofString "Unsupported language: " ++ name.quoted ++
      Text.ofString s!". Supported: {supported}"
  | unencodable bad => bad.message
  | syntaxError line column =>
    s!"Script parsing failed: syntax error at line {line}, column {column}"
  | escape e => e.message
  | released => "Syntax tree has already been released"

/-- A script and its tree, which is gone once released. -/
structure Parsed where
  language : Language
  source : List Char
  tree : Option Node

namespace Parsed

/-- Parses a script in the language of a given name. -/
def ofSource (parse : Parser) (source : Text) (language : Text) : Except ScriptError Parsed :=
  match Language.ofName? language with
  | none => .error (.unsupportedLanguage language)
  | some language =>
    match source.encode with
    | .error bad => .error (.unencodable bad)
    | .ok source => .ok { language, source, tree := some (parse language source) }

/-- The tree is gone. -/
def released (p : Parsed) : Bool := p.tree.isNone

/-- Lets the tree go. -/
def release (p : Parsed) : Parsed := { p with tree := none }

/-- The root of the tree. -/
def root (p : Parsed) : Except ScriptError Node :=
  match p.tree with
  | some n => .ok n
  | none => .error .released

/-- The source text of a node, which is empty once the tree is gone. -/
def text (p : Parsed) (n : Node) : List Char :=
  if p.released then [] else n.span.slice p.source

/-- The first fault of the tree. -/
def firstFault? (p : Parsed) : Except ScriptError (Option Node) := do
  return (← p.root).firstFault?

/-- The script has a fault. -/
def hasFault (p : Parsed) : Except ScriptError Bool := do
  return (← p.firstFault?).isSome

/-- Fails when the script has a fault. -/
def checkSyntax (p : Parsed) : Except ScriptError Unit := do
  match ← p.firstFault? with
  | none => return ()
  | some n => throw (.syntaxError (lineAt p.source n.span.start) (columnAt p.source n.span.start))

/-- The modules that the script imports. -/
def imports (p : Parsed) : Except ScriptError (List Import) := do
  (← p.root).imports p.source |>.mapError .escape

/-- The script exports a function to run. -/
def hasExportedFunction (p : Parsed) : Except ScriptError Bool := do
  return (← p.root).hasExportedFunction

/-- The first property whose key is written as given. A key without a UTF-8 form is written nowhere. -/
def firstProperty? (p : Parsed) (key : Text) : Except ScriptError (Option Property) := do
  let root ← p.root
  return key.scalars?.bind (root.firstProperty? p.source)

/-- Runs a block, which may change the parsed script, and releases the script whatever the block comes to. -/
def during {α : Type} (p : Parsed) (block : Parsed → α × Parsed) : α × Parsed :=
  let (result, left) := block p
  (result, left.release)

/-- Runs a block that only asks about a parsed script, and releases the script whatever the block comes to. -/
def within {α : Type} (p : Parsed) (block : Parsed → α) : α × Parsed :=
  p.during fun q => (block q, q)

end Parsed

end ScriptVet.Script
