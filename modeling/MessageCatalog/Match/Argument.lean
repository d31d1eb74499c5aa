import MessageCatalog.Diagnostic
import MessageCatalog.Failure
import MessageCatalog.Go.Cursor
import MessageCatalog.Text.Bytes

/-! # Arguments

The first argument of a call is classified by its shape and then resolved: into a text, into a
problem that is reported, or, for a chain that mixes literals with other things, into a failure
of the whole extraction.
-/

namespace MessageCatalog

/-- A source with its path and tree. -/
structure SourceFile where
  path : String
  source : String
  tree : Go.Node

namespace SourceFile

/-- The text of a node. -/
def text (f : SourceFile) (n : Go.Node) : String :=
  String.ofList (Text.slice n.start.offset n.stop.offset f.source.toList)

/-- Where a node starts. -/
def position (f : SourceFile) (n : Go.Node) : Position := ⟨f.path, n.start.location⟩

end SourceFile

/-- An argument by its shape. -/
inductive Argument where
  /-- A string literal. -/
  | literal (token : String) (position : Position)
  /-- Operands joined by an operator. -/
  | concatenation (chain : Chain)
  /-- An expression that names a value. -/
  | reference (kind : Reference) (position : Position)
  /-- Any other expression. -/
  | unsupported (kind : String) (position : Position)
deriving DecidableEq, Repr

/-- What an argument comes to. -/
inductive Resolution where
  | text (text : String)
  | problem (diagnostic : Diagnostic)
deriving DecidableEq, Repr

namespace Go.Node

/-- The first argument in an argument list; comments are skipped. -/
def firstArgument? (arguments : Node) : Option Node :=
  arguments.children.find? (·.kind ≠ .comment)

end Go.Node

namespace SourceFile

/-- The operator of a binary expression with its position; a tree may lack it. -/
def operator (f : SourceFile) (n : Go.Node) : String × Position :=
  match n.child? .operator with
  | some op => (f.text op, f.position op)
  | none => ("", f.position n)

/-- The operand that a binary expression lacks. -/
def missingOperand (f : SourceFile) (n : Go.Node) : Operand :=
  .other "missing operand" (f.position n)

mutual

/-- A node as an operand. -/
def operand (f : SourceFile) : Go.Node → Operand
  | .mk kind role start stop children =>
    let n := Go.Node.mk kind role start stop children
    if kind.isStringLiteral then .literal (f.text n) (f.position n)
    else if kind = .binaryExpression then
      let (op, position) := f.operator n
      .join op position (f.operandIn .left (f.missingOperand n) children)
        (f.operandIn .right (f.missingOperand n) children)
    else .other kind.describe (f.position n)

/-- The first child in a role as an operand, or the default if there is none. -/
def operandIn (f : SourceFile) (r : Go.Role) (default : Operand) : List Go.Node → Operand
  | [] => default
  | .mk kind role start stop children :: ns =>
    if role = some r then f.operand (.mk kind role start stop children)
    else f.operandIn r default ns

end

/-- A binary expression as a chain. -/
def chain (f : SourceFile) (n : Go.Node) : Chain :=
  let (op, position) := f.operator n
  ⟨op, position, f.operandIn .left (f.missingOperand n) n.children,
    f.operandIn .right (f.missingOperand n) n.children⟩

/-- Classify an argument. -/
def classify (f : SourceFile) (n : Go.Node) : Argument :=
  match n.kind with
  | .interpretedStringLiteral | .rawStringLiteral => .literal (f.text n) (f.position n)
  | .binaryExpression => .concatenation (f.chain n)
  | .identifier => .reference .identifier (f.position n)
  | .selectorExpression => .reference .selector (f.position n)
  | .callExpression => .reference .call (f.position n)
  | kind => .unsupported kind.describe (f.position n)

end SourceFile

namespace Argument

/-- Where the argument starts. -/
def position : Argument → Position
  | literal _ p => p
  | concatenation chain => chain.left.start
  | reference _ p => p
  | unsupported _ p => p

/-- A literal without a value is a problem. -/
def malformed (position : Position) (error : LiteralError) : Resolution :=
  .problem ⟨.malformedLiteral error, position⟩

/-- What the argument comes to. -/
def resolve : Argument → Except Failure Resolution
  | literal token position => match Literal.decode token with
    | .ok text => .ok (.text text)
    | .error error => .ok (malformed position error)
  | concatenation chain => match chain.fold with
    | .ok text => .ok (.text text)
    | .error (.malformed position error) => .ok (malformed position error)
    | .error (.notAnAddition position operator) => .error (.notAnAddition position operator)
    | .error (.unhandledOperand position kind) => .error (.unhandledOperand position kind)
  | reference kind position => .ok (.problem ⟨.notALiteral kind, position⟩)
  | unsupported kind position => .ok (.problem ⟨.unhandledExpression kind, position⟩)

end Argument

end MessageCatalog
