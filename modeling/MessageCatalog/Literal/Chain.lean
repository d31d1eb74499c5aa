import MessageCatalog.Literal.Decode
import MessageCatalog.Position

/-! # Chains of literals

An argument such as `"two" + " " + "three"` is a tree of operators over operands.
`Chain.fold` joins it into one text when every operator is `+` and every leaf is a literal with
a value; otherwise it names the first fault, the operator of a node coming before its operands
and the left operand before the right.
-/

namespace MessageCatalog

/-- One side of an operator. -/
inductive Operand where
  /-- A string literal token. -/
  | literal (token : String) (position : Position)
  /-- An expression of some other kind. -/
  | other (kind : String) (position : Position)
  /-- Two operands and the operator between them, with the operator's position. -/
  | join (operator : String) (position : Position) (left right : Operand)
deriving DecidableEq, Repr

/-- An operator and its two operands. -/
structure Chain where
  operator : String
  position : Position
  left : Operand
  right : Operand
deriving DecidableEq, Repr

/-- Why a chain has no value. -/
inductive ChainError where
  /-- A literal in the chain has no value. -/
  | malformed (position : Position) (error : LiteralError)
  /-- An operator other than `+`. -/
  | notAnAddition (position : Position) (operator : String)
  /-- An operand that is neither a literal nor a chain. -/
  | unhandledOperand (position : Position) (kind : String)
deriving DecidableEq, Repr

namespace Operand

/-- The value of an operand, or the first fault in it. -/
def value : Operand → Except ChainError String
  | literal token position => match Literal.decode token with
    | .ok value => .ok value
    | .error e => .error (.malformed position e)
  | other kind position => .error (.unhandledOperand position kind)
  | join operator position left right =>
    if operator = "+" then do return (← left.value) ++ (← right.value)
    else .error (.notAnAddition position operator)

/-- The position of the leftmost leaf. -/
def start : Operand → Position
  | literal _ position => position
  | other _ position => position
  | join _ _ left _ => left.start

end Operand

namespace Chain

/-- The chain as an operand of a larger one. -/
def toOperand (c : Chain) : Operand := .join c.operator c.position c.left c.right

/-- The text of the whole chain, or the first fault in it. -/
def fold (c : Chain) : Except ChainError String := c.toOperand.value

/-- The position of the leftmost leaf. -/
def start (c : Chain) : Position := c.toOperand.start

end Chain

end MessageCatalog
