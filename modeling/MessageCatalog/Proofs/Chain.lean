import MessageCatalog.Match.Argument

/-! # Faults of a chain

`Operand.faults` lists everything that is wrong with a chain, the operator of a node before its
operands and the left operand before the right.  The value of a chain is the joined text of its
literals if there is no fault, and the first fault otherwise (`value_eq`).  A fault other than a
malformed literal stops the extraction (`ChainError.failure?`). -/

namespace MessageCatalog

namespace Operand

/-- The faults of an operand in the order in which they are met. -/
def faults : Operand → List ChainError
  | literal token position => match Literal.decode token with
    | .ok _ => []
    | .error e => [.malformed position e]
  | other kind position => [.unhandledOperand position kind]
  | join operator position left right =>
    (if operator = "+" then [] else [.notAnAddition position operator]) ++
      left.faults ++ right.faults

/-- The values of the literals of an operand from left to right. -/
def texts : Operand → List String
  | literal token _ => match Literal.decode token with
    | .ok value => [value]
    | .error _ => []
  | other _ _ => []
  | join _ _ left right => left.texts ++ right.texts

/-- An operand has the value of its literals, or it gives the first of its faults. -/
theorem value_eq (o : Operand) : o.value = match o.faults.head? with
    | some fault => .error fault
    | none => .ok (String.join o.texts) := by
  induction o with
  | literal token position =>
    rw [value, faults, texts]
    cases Literal.decode token with
    | ok value => simp
    | error e => rfl
  | other kind position => rfl
  | join operator position left right ihl ihr =>
    rw [value, faults, texts]
    by_cases hop : operator = "+"
    · rw [if_pos hop, if_pos hop, List.nil_append, ihl, ihr]
      cases hl : left.faults with
      | cons fault more => rfl
      | nil => cases hr : right.faults with
        | cons fault more => rfl
        | nil =>
          rw [String.join_append]
          rfl
    · rw [if_neg hop, if_neg hop]
      rfl

end Operand

namespace ChainError

/-- The failure that a fault of a chain is; a malformed literal is none. -/
def failure? : ChainError → Option Failure
  | malformed _ _ => none
  | notAnAddition position operator => some (.notAnAddition position operator)
  | unhandledOperand position kind => some (.unhandledOperand position kind)

theorem isInternal_of_failure? {fault : ChainError} {failure : Failure}
    (h : fault.failure? = some failure) : failure.isInternal = true := by
  cases fault with
  | malformed position e => simp [failure?] at h
  | notAnAddition position operator =>
    rw [failure?, Option.some.injEq] at h
    rw [← h]
    rfl
  | unhandledOperand position kind =>
    rw [failure?, Option.some.injEq] at h
    rw [← h]
    rfl

end ChainError

end MessageCatalog
