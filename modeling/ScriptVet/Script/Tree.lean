/-!
# Syntax trees

A script is read into a tree of nodes. A node has a kind, the part it plays in its parent when the
queries ask for it, the span of source text it covers, and its children in source order.

`Node.preorder` lists a tree by recursion. `Node.walk` gives the same list from an explicit stack, so
that trees of any depth can be searched in constant call depth.
-/

namespace ScriptVet.Script

/-- A stretch of the source, in code points: from `start` up to, but not including, `stop`. -/
structure Span where
  start : Nat
  stop : Nat
  deriving DecidableEq, Inhabited

/-- What a node is. -/
inductive Kind where
  -- the whole script, and what stands for text that no rule reads
  | program
  | error
  | missing
  -- module declarations
  | importStatement
  | importClause
  | importRequire
  | importAlias
  | importAttributes
  | exportStatement
  | exportClause
  -- statements
  | block
  | emptyStatement
  | expressionStatement
  | variableDeclaration
  | declarator
  | ifStatement
  | forStatement
  | forInStatement
  | whileStatement
  | doStatement
  | tryStatement
  | withStatement
  | switchStatement
  | switchCase
  | jumpStatement
  | returnStatement
  | throwStatement
  | labeledStatement
  -- functions and classes
  | functionDeclaration
  | generatorDeclaration
  | functionSignature
  | functionExpression
  | generatorExpression
  | arrowFunction
  | parameters
  | classDeclaration
  | classExpression
  | classBody
  | heritage
  | method
  | field
  | decorator
  -- expressions
  | identifier
  | privateName
  | number
  | string
  | stringFragment
  | escapeSequence
  | template
  | substitution
  | regex
  | literal
  | array
  | object
  | pair
  | shorthand
  | computedName
  | spread
  | group
  | sequence
  | member
  | subscript
  | call
  | arguments
  | new
  | metaProperty
  | unary
  | update
  | operation
  | conditional
  | assignment
  | yield
  -- patterns
  | objectPattern
  | pairPattern
  | arrayPattern
  | restPattern
  | defaultPattern
  -- markup
  | element
  | attribute
  | markupText
  -- types
  | type
  | typeArguments
  | typeParameters
  | typeMember
  | typeDeclaration
  | namespace
  | ambient
  deriving DecidableEq, Inhabited, Repr

/-- The part that a node plays in its parent. -/
inductive Role where
  /-- The module named by an import or export. -/
  | source
  /-- The declaration that is exported. -/
  | declaration
  /-- The expression that is exported, or the value of a pair. -/
  | value
  /-- The name of a pair. -/
  | key
  deriving DecidableEq

/-- A node of a syntax tree. -/
inductive Node where
  | mk (kind : Kind) (role : Option Role) (span : Span) (children : List Node)
  deriving Inhabited

namespace Node

/-- What the node is. -/
def kind : Node → Kind
  | mk k _ _ _ => k

/-- The part the node plays in its parent. -/
def role : Node → Option Role
  | mk _ r _ _ => r

/-- The source text the node covers. -/
def span : Node → Span
  | mk _ _ s _ => s

/-- The children in source order. -/
def children : Node → List Node
  | mk _ _ _ cs => cs

/-- The same node in a part. -/
def as (role : Role) : Node → Node
  | mk k _ s cs => mk k (some role) s cs

/-- The first child that plays a part. -/
def child? (n : Node) (role : Role) : Option Node :=
  n.children.find? fun c => c.role = some role

/-- The node stands for text that no rule reads. -/
def isFault (n : Node) : Bool := n.kind = .error || n.kind = .missing

mutual

/-- The nodes of a tree, a parent before its children and children from left to right. -/
def preorder : Node → List Node
  | mk k r s cs => mk k r s cs :: preorderAll cs

/-- The nodes of several trees, one tree after another. -/
def preorderAll : List Node → List Node
  | [] => []
  | n :: ns => preorder n ++ preorderAll ns

end

mutual

/-- The number of nodes of a tree. -/
def size : Node → Nat
  | mk _ _ _ cs => 1 + sizeAll cs

/-- The number of nodes of several trees. -/
def sizeAll : List Node → Nat
  | [] => 0
  | n :: ns => size n + sizeAll ns

end

/-- Walks the trees on a stack: the top node is listed and its children take its place. The fuel is
at least the number of nodes on the stack. -/
def walkStack : Nat → List Node → List Node → List Node
  | 0, _, listed => listed.reverse
  | _ + 1, [], listed => listed.reverse
  | fuel + 1, n :: stack, listed => walkStack fuel (n.children ++ stack) (n :: listed)

/-- The nodes of a tree in the order of `preorder`, found with a stack. -/
def walk (n : Node) : List Node := walkStack n.size [n] []

/-- The first fault of a tree. -/
def firstFault? (n : Node) : Option Node := n.walk.find? isFault

end Node

end ScriptVet.Script
