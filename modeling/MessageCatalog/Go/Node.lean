import MessageCatalog.Position

/-! # Syntax trees of Go sources

A source is read into a tree of nodes.  Each node has a kind, the stretch of text that it
covers, and its children in the order of the text; some children have a role in their parent.
Comments are nodes too and may stand anywhere in the tree.

The tree keeps what a search for calls needs, expressions and types; declarations and
statements leave no nodes of their own.  No tree is ruled out: a call need not have arguments,
nor an operator two operands.
-/

namespace MessageCatalog.Go

/-- The kind of a node. -/
inductive Kind where
  | sourceFile
  | comment
  | operator
  | argumentList
  | identifier
  | interpretedStringLiteral
  | rawStringLiteral
  | intLiteral
  | floatLiteral
  | imaginaryLiteral
  | runeLiteral
  | nilLiteral
  | trueLiteral
  | falseLiteral
  | iota
  | parenthesizedExpression
  | unaryExpression
  | binaryExpression
  | selectorExpression
  | indexExpression
  | sliceExpression
  | callExpression
  | typeAssertionExpression
  | typeConversionExpression
  | typeInstantiationExpression
  | compositeLiteral
  | funcLiteral
  | variadicArgument
  | typeIdentifier
  | qualifiedType
  | genericType
  | negatedType
  | parenthesizedType
  | pointerType
  | sliceType
  | arrayType
  | implicitLengthArrayType
  | mapType
  | channelType
  | functionType
  | structType
  | interfaceType
deriving DecidableEq, Repr, Inhabited

namespace Kind

/-- A kind in words, as diagnostics name it. -/
def describe : Kind → String
  | sourceFile => "source file"
  | comment => "comment"
  | operator => "operator"
  | argumentList => "argument list"
  | identifier => "identifier"
  | interpretedStringLiteral => "interpreted string literal"
  | rawStringLiteral => "raw string literal"
  | intLiteral => "int literal"
  | floatLiteral => "float literal"
  | imaginaryLiteral => "imaginary literal"
  | runeLiteral => "rune literal"
  | nilLiteral => "nil"
  | trueLiteral => "true"
  | falseLiteral => "false"
  | iota => "iota"
  | parenthesizedExpression => "parenthesized expression"
  | unaryExpression => "unary expression"
  | binaryExpression => "binary expression"
  | selectorExpression => "selector expression"
  | indexExpression => "index expression"
  | sliceExpression => "slice expression"
  | callExpression => "call expression"
  | typeAssertionExpression => "type assertion expression"
  | typeConversionExpression => "type conversion expression"
  | typeInstantiationExpression => "type instantiation expression"
  | compositeLiteral => "composite literal"
  | funcLiteral => "func literal"
  | variadicArgument => "variadic argument"
  | typeIdentifier => "type identifier"
  | qualifiedType => "qualified type"
  | genericType => "generic type"
  | negatedType => "negated type"
  | parenthesizedType => "parenthesized type"
  | pointerType => "pointer type"
  | sliceType => "slice type"
  | arrayType => "array type"
  | implicitLengthArrayType => "implicit length array type"
  | mapType => "map type"
  | channelType => "channel type"
  | functionType => "function type"
  | structType => "struct type"
  | interfaceType => "interface type"

/-- The two kinds of string literals. -/
def isStringLiteral : Kind → Bool
  | interpretedStringLiteral | rawStringLiteral => true
  | _ => false

end Kind

/-- What a child is to its parent. -/
inductive Role where
  /-- The argument list of a call. -/
  | arguments
  /-- The operator of a binary expression. -/
  | operator
  /-- The left operand of a binary expression. -/
  | left
  /-- The right operand of a binary expression. -/
  | right
deriving DecidableEq, Repr

/-- A place in a text: its byte offset, counted from zero, and its location. -/
structure Place where
  offset : Nat
  location : Location
deriving DecidableEq, Repr, Inhabited

/-- A node of a syntax tree. -/
inductive Node where
  | mk (kind : Kind) (role : Option Role) (start stop : Place) (children : List Node)
deriving Repr

instance : Inhabited Node := ⟨.mk .sourceFile none default default []⟩

namespace Node

/-- The kind of a node. -/
def kind : Node → Kind | mk k _ _ _ _ => k

/-- What the node is to its parent. -/
def role : Node → Option Role | mk _ r _ _ _ => r

/-- Where the node starts. -/
def start : Node → Place | mk _ _ s _ _ => s

/-- Where the node ends. -/
def stop : Node → Place | mk _ _ _ s _ => s

/-- The children, in the order of the text. -/
def children : Node → List Node | mk _ _ _ _ cs => cs

/-- The node in another role. -/
def withRole (r : Role) : Node → Node | mk k _ s t cs => mk k (some r) s t cs

/-- The first child with a role. -/
def child? (n : Node) (r : Role) : Option Node := n.children.find? (·.role = some r)

mutual

/-- The number of nodes of a tree. -/
def size : Node → Nat
  | mk _ _ _ _ cs => 1 + sizes cs

/-- The number of nodes of several trees. -/
def sizes : List Node → Nat
  | [] => 0
  | n :: ns => n.size + sizes ns

end

mutual

/-- The nodes of a tree, a node before its children and these in order. -/
def preorder : Node → List Node
  | mk k r s t cs => mk k r s t cs :: preorders cs

/-- The nodes of several trees, one tree after the other. -/
def preorders : List Node → List Node
  | [] => []
  | n :: ns => n.preorder ++ preorders ns

end

end Node

end MessageCatalog.Go
