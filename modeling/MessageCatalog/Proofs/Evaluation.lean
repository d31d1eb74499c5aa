import MessageCatalog.Proofs.Chain

/-! # Arguments on the tree

What an argument comes to, said on the syntax tree and apart from its classification.
`IsFirstArgument` and `HasChild` say which child of a node is meant.  `SourceFile.Evaluates`
evaluates a node from left to right into a text or into the first fault that is met, and
`SourceFile.Resolves` says what becomes of an argument: a text, a problem or a failure.  The
program computes these relations (`evaluates_iff`, `resolves_iff`), so each argument comes to
exactly one thing. -/

namespace MessageCatalog

/-! ### Nodes and their children -/

theorem Go.Kind.isStringLiteral_iff {k : Kind} :
    k.isStringLiteral = true ↔ k = .interpretedStringLiteral ∨ k = .rawStringLiteral := by
  cases k <;> decide

namespace Go.Node

/-- The argument is the first of the list: only comments stand before it. -/
def IsFirstArgument (arguments argument : Node) : Prop :=
  ∃ comments rest, arguments.children = comments ++ argument :: rest ∧
    (∀ c ∈ comments, c.kind = .comment) ∧ argument.kind ≠ .comment

/-- The list has nothing but comments. -/
def HasNoArgument (arguments : Node) : Prop := ∀ c ∈ arguments.children, c.kind = .comment

/-- The child is the first in its role. -/
def HasChild (n : Node) (r : Role) (child : Node) : Prop :=
  ∃ before after, n.children = before ++ child :: after ∧
    (∀ c ∈ before, c.role ≠ some r) ∧ child.role = some r

/-- No child is in the role. -/
def Lacks (n : Node) (r : Role) : Prop := ∀ c ∈ n.children, c.role ≠ some r

theorem firstArgument?_eq_some_iff {arguments argument : Node} :
    arguments.firstArgument? = some argument ↔ arguments.IsFirstArgument argument := by
  rw [firstArgument?, List.find?_eq_some_iff_append]
  simp [IsFirstArgument, and_comm, and_left_comm]

theorem firstArgument?_eq_none_iff {arguments : Node} :
    arguments.firstArgument? = none ↔ arguments.HasNoArgument := by
  simp [firstArgument?, HasNoArgument]

theorem child?_eq_some_iff {n : Node} {r : Role} {child : Node} :
    n.child? r = some child ↔ n.HasChild r child := by
  rw [child?, List.find?_eq_some_iff_append]
  simp [HasChild, and_comm, and_left_comm]

theorem child?_eq_none_iff {n : Node} {r : Role} : n.child? r = none ↔ n.Lacks r := by
  simp [child?, Lacks]

theorem HasChild.mem {n : Node} {r : Role} {child : Node} (h : n.HasChild r child) :
    child ∈ n.children := by
  obtain ⟨before, after, hc, _⟩ := h
  simp [hc]

mutual

/-- Induction over a tree, from the children of a node to the node. -/
theorem induction {motive : Node → Prop}
    (h : ∀ n, (∀ c ∈ n.children, motive c) → motive n) : ∀ n, motive n
  | mk _ _ _ _ cs => h _ (induction_children h cs)

theorem induction_children {motive : Node → Prop}
    (h : ∀ n, (∀ c ∈ n.children, motive c) → motive n) : ∀ (ns : List Node), ∀ c ∈ ns, motive c
  | [], _, hc => absurd hc List.not_mem_nil
  | n :: ns, c, hc => (List.mem_cons.1 hc).elim (fun hn => hn ▸ induction h n)
      (induction_children h ns c)

end

end Go.Node

/-! ### Evaluation -/

namespace SourceFile

/-- The node is a binary expression whose operator is `+`. -/
def IsAddition (f : SourceFile) (n : Go.Node) : Prop :=
  n.kind = .binaryExpression ∧ ∃ op, n.HasChild .operator op ∧ f.text op = "+"

/-- The value of a node as an operand, or the first fault that is met: the operator of a node
comes before its operands and the left operand before the right.  A tree may lack any of the
three. -/
inductive Evaluates (f : SourceFile) : Go.Node → Except ChainError String → Prop where
  | literal {n : Go.Node} {text : String} (hk : n.kind.isStringLiteral = true)
      (h : Literal.decode (f.text n) = .ok text) : Evaluates f n (.ok text)
  | malformed {n : Go.Node} {e : LiteralError} (hk : n.kind.isStringLiteral = true)
      (h : Literal.decode (f.text n) = .error e) :
      Evaluates f n (.error (.malformed ⟨f.path, n.start.location⟩ e))
  | other {n : Go.Node} (hs : n.kind.isStringLiteral = false)
      (hb : n.kind ≠ .binaryExpression) :
      Evaluates f n (.error (.unhandledOperand ⟨f.path, n.start.location⟩ n.kind.describe))
  | operator {n op : Go.Node} (hk : n.kind = .binaryExpression) (ho : n.HasChild .operator op)
      (h : f.text op ≠ "+") :
      Evaluates f n (.error (.notAnAddition ⟨f.path, op.start.location⟩ (f.text op)))
  | noOperator {n : Go.Node} (hk : n.kind = .binaryExpression) (ho : n.Lacks .operator) :
      Evaluates f n (.error (.notAnAddition ⟨f.path, n.start.location⟩ ""))
  | left {n l : Go.Node} {fault : ChainError} (ha : f.IsAddition n) (hl : n.HasChild .left l)
      (h : Evaluates f l (.error fault)) : Evaluates f n (.error fault)
  | noLeft {n : Go.Node} (ha : f.IsAddition n) (hl : n.Lacks .left) :
      Evaluates f n (.error (.unhandledOperand ⟨f.path, n.start.location⟩ "missing operand"))
  | right {n l r : Go.Node} {x : String} {fault : ChainError} (ha : f.IsAddition n)
      (hl : n.HasChild .left l) (hx : Evaluates f l (.ok x)) (hr : n.HasChild .right r)
      (h : Evaluates f r (.error fault)) : Evaluates f n (.error fault)
  | noRight {n l : Go.Node} {x : String} (ha : f.IsAddition n) (hl : n.HasChild .left l)
      (hx : Evaluates f l (.ok x)) (hr : n.Lacks .right) :
      Evaluates f n (.error (.unhandledOperand ⟨f.path, n.start.location⟩ "missing operand"))
  | join {n l r : Go.Node} {x y : String} (ha : f.IsAddition n) (hl : n.HasChild .left l)
      (hx : Evaluates f l (.ok x)) (hr : n.HasChild .right r) (hy : Evaluates f r (.ok y)) :
      Evaluates f n (.ok (x ++ y))

variable {f : SourceFile}

theorem operandIn_eq (r : Go.Role) (default : Operand) : ∀ (ns : List Go.Node),
    f.operandIn r default ns = ((ns.find? (·.role = some r)).map f.operand).getD default
  | [] => by rw [operandIn]; rfl
  | .mk kind role start stop children :: ns => by
      rw [operandIn, List.find?_cons, operandIn_eq r default ns]
      by_cases h : role = some r
      · simp [h, Go.Node.role]
      · simp [h, Go.Node.role]

theorem operandIn_of_hasChild {n child : Go.Node} {r : Go.Role} (h : n.HasChild r child)
    (default : Operand) : f.operandIn r default n.children = f.operand child := by
  have hc : n.children.find? (·.role = some r) = some child := Go.Node.child?_eq_some_iff.2 h
  rw [operandIn_eq, hc]
  rfl

theorem operandIn_of_lacks {n : Go.Node} {r : Go.Role} (h : n.Lacks r) (default : Operand) :
    f.operandIn r default n.children = default := by
  have hc : n.children.find? (·.role = some r) = none := Go.Node.child?_eq_none_iff.2 h
  rw [operandIn_eq, hc]
  rfl

theorem operand_of_literal {n : Go.Node} (h : n.kind.isStringLiteral = true) :
    f.operand n = .literal (f.text n) ⟨f.path, n.start.location⟩ := by
  cases n with
  | mk kind role start stop children =>
    rw [Go.Node.kind] at h
    rw [operand, if_pos h]
    rfl

theorem operand_of_other {n : Go.Node} (hs : n.kind.isStringLiteral = false)
    (hb : n.kind ≠ .binaryExpression) :
    f.operand n = .other n.kind.describe ⟨f.path, n.start.location⟩ := by
  cases n with
  | mk kind role start stop children =>
    rw [Go.Node.kind] at hs hb
    rw [operand, if_neg (Bool.eq_false_iff.1 hs), if_neg hb]
    rfl

theorem operand_of_binary {n : Go.Node} (h : n.kind = .binaryExpression) :
    f.operand n = (f.chain n).toOperand := by
  cases n with
  | mk kind role start stop children =>
    obtain rfl : kind = .binaryExpression := h
    rw [operand]
    rfl

/-- The value of an addition is made of the values of its sides. -/
theorem value_of_isAddition {n : Go.Node} (h : f.IsAddition n) :
    (f.operand n).value = (do
      let x ← (f.operandIn .left (f.missingOperand n) n.children).value
      let y ← (f.operandIn .right (f.missingOperand n) n.children).value
      return x ++ y) := by
  obtain ⟨hk, op, ho, hplus⟩ := h
  have hop : f.operator n = ("+", f.position op) := by
    rw [operator, Go.Node.child?_eq_some_iff.2 ho, ← hplus]
  rw [operand_of_binary hk, chain, hop, Chain.toOperand, Operand.value, if_pos rfl]

/-- Evaluation gives the value of the operand. -/
theorem value_of_evaluates {n : Go.Node} {x : Except ChainError String} (h : f.Evaluates n x) :
    (f.operand n).value = x := by
  induction h with
  | literal hk h | malformed hk h => rw [operand_of_literal hk, Operand.value, h]
  | other hs hb => rw [operand_of_other hs hb, Operand.value]
  | operator hk ho h =>
    rw [operand_of_binary hk, chain, operator, Go.Node.child?_eq_some_iff.2 ho, Chain.toOperand,
      Operand.value, if_neg h]
    rfl
  | noOperator hk ho =>
    rw [operand_of_binary hk, chain, operator, Go.Node.child?_eq_none_iff.2 ho, Chain.toOperand,
      Operand.value]
    rfl
  | left ha hl _ ih =>
    rw [value_of_isAddition ha, operandIn_of_hasChild hl, ih]
    rfl
  | noLeft ha hl =>
    rw [value_of_isAddition ha, operandIn_of_lacks hl]
    rfl
  | right ha hl _ hr _ ihx ih =>
    rw [value_of_isAddition ha, operandIn_of_hasChild hl, operandIn_of_hasChild hr, ihx, ih]
    rfl
  | noRight ha hl _ hr ihx =>
    rw [value_of_isAddition ha, operandIn_of_hasChild hl, operandIn_of_lacks hr, ihx]
    rfl
  | join ha hl _ hr _ ihx ihy =>
    rw [value_of_isAddition ha, operandIn_of_hasChild hl, operandIn_of_hasChild hr, ihx, ihy]
    rfl

/-- The right side of an addition whose left side has a value. -/
theorem exists_evaluates_of_left {n l : Go.Node} {x : String} (ha : f.IsAddition n)
    (hl : n.HasChild .left l) (hx : f.Evaluates l (.ok x))
    (ih : ∀ c ∈ n.children, ∃ y, f.Evaluates c y) : ∃ y, f.Evaluates n y := by
  cases hc : n.child? .right with
  | none => exact ⟨_, .noRight ha hl hx (Go.Node.child?_eq_none_iff.1 hc)⟩
  | some r =>
    have hr := Go.Node.child?_eq_some_iff.1 hc
    obtain ⟨y, hy⟩ := ih r hr.mem
    cases y with
    | error fault => exact ⟨_, .right ha hl hx hr hy⟩
    | ok y => exact ⟨_, .join ha hl hx hr hy⟩

theorem exists_evaluates_of_isAddition {n : Go.Node} (ha : f.IsAddition n)
    (ih : ∀ c ∈ n.children, ∃ y, f.Evaluates c y) : ∃ y, f.Evaluates n y := by
  cases hc : n.child? .left with
  | none => exact ⟨_, .noLeft ha (Go.Node.child?_eq_none_iff.1 hc)⟩
  | some l =>
    have hl := Go.Node.child?_eq_some_iff.1 hc
    obtain ⟨y, hy⟩ := ih l hl.mem
    cases y with
    | error fault => exact ⟨_, .left ha hl hy⟩
    | ok x => exact exists_evaluates_of_left ha hl hy ih

/-- Every node evaluates to something. -/
theorem exists_evaluates (f : SourceFile) (n : Go.Node) : ∃ x, f.Evaluates n x := by
  induction n using Go.Node.induction with
  | h n ih =>
    by_cases hs : n.kind.isStringLiteral = true
    · cases h : Literal.decode (f.text n) with
      | ok text => exact ⟨_, .literal hs h⟩
      | error e => exact ⟨_, .malformed hs h⟩
    by_cases hk : n.kind = .binaryExpression
    · cases hc : n.child? .operator with
      | none => exact ⟨_, .noOperator hk (Go.Node.child?_eq_none_iff.1 hc)⟩
      | some op =>
        have ho := Go.Node.child?_eq_some_iff.1 hc
        by_cases hplus : f.text op = "+"
        · exact exists_evaluates_of_isAddition ⟨hk, op, ho, hplus⟩ ih
        · exact ⟨_, .operator hk ho hplus⟩
    · exact ⟨_, .other (Bool.eq_false_iff.2 hs) hk⟩

/-- A node evaluates to the value of its operand, and to nothing else. -/
theorem evaluates_iff {n : Go.Node} {x : Except ChainError String} :
    f.Evaluates n x ↔ (f.operand n).value = x := by
  refine ⟨value_of_evaluates, ?_⟩
  rintro rfl
  obtain ⟨x, hx⟩ := f.exists_evaluates n
  rwa [value_of_evaluates hx]

/-! ### Resolution -/

/-- What an argument comes to.  A literal or a binary expression is evaluated: a text is the
message, a malformed literal is a problem, and any other fault, which only a binary expression
has, is a failure.  Other expressions are problems at their start. -/
inductive Resolves (f : SourceFile) (n : Go.Node) : Except Failure Resolution → Prop where
  | text {text : String} (h : f.Evaluates n (.ok text)) : Resolves f n (.ok (.text text))
  | malformed {p : Position} {e : LiteralError} (h : f.Evaluates n (.error (.malformed p e))) :
      Resolves f n (.ok (.problem ⟨.malformedLiteral e, p⟩))
  | failure {fault : ChainError} {failure : Failure} (hk : n.kind = .binaryExpression)
      (h : f.Evaluates n (.error fault)) (hf : fault.failure? = some failure) :
      Resolves f n (.error failure)
  | identifier (hk : n.kind = .identifier) :
      Resolves f n (.ok (.problem ⟨.notALiteral .identifier, f.path, n.start.location⟩))
  | selector (hk : n.kind = .selectorExpression) :
      Resolves f n (.ok (.problem ⟨.notALiteral .selector, f.path, n.start.location⟩))
  | call (hk : n.kind = .callExpression) :
      Resolves f n (.ok (.problem ⟨.notALiteral .call, f.path, n.start.location⟩))
  | unsupported (hs : n.kind.isStringLiteral = false) (hk : n.kind ∉
      [.binaryExpression, .identifier, .selectorExpression, .callExpression]) :
      Resolves f n (.ok (.problem ⟨.unhandledExpression n.kind.describe, f.path,
        n.start.location⟩))

/-- What an argument with the given value comes to. -/
def ofValue : Except ChainError String → Except Failure Resolution
  | .ok text => .ok (.text text)
  | .error (.malformed p e) => .ok (.problem ⟨.malformedLiteral e, p⟩)
  | .error (.notAnAddition p operator) => .error (.notAnAddition p operator)
  | .error (.unhandledOperand p kind) => .error (.unhandledOperand p kind)

theorem ofValue_of_failure? {fault : ChainError} {failure : Failure}
    (h : fault.failure? = some failure) : ofValue (.error fault) = .error failure := by
  cases fault with
  | malformed p e => cases h
  | notAnAddition p operator => cases h; rfl
  | unhandledOperand p kind => cases h; rfl

theorem resolve_classify_of_literal {n : Go.Node} (h : n.kind.isStringLiteral = true) :
    (f.classify n).resolve = ofValue (f.operand n).value := by
  have hc : f.classify n = .literal (f.text n) (f.position n) := by
    rcases Go.Kind.isStringLiteral_iff.1 h with hk | hk <;> rw [classify, hk]
  rw [hc, Argument.resolve, operand_of_literal h, Operand.value]
  cases Literal.decode (f.text n) with
  | ok text => rfl
  | error e => rfl

theorem resolve_classify_of_binary {n : Go.Node} (h : n.kind = .binaryExpression) :
    (f.classify n).resolve = ofValue (f.operand n).value := by
  have hc : f.classify n = .concatenation (f.chain n) := by rw [classify, h]
  rw [hc, Argument.resolve, operand_of_binary h, Chain.fold]
  cases (f.chain n).toOperand.value with
  | ok text => rfl
  | error fault => cases fault <;> rfl

/-- A node with a value, or with a malformed literal, resolves by evaluation. -/
theorem resolve_classify_of_evaluates {n : Go.Node} {x : Except ChainError String}
    (h : f.Evaluates n x) (hx : ∀ p kind, x ≠ .error (.unhandledOperand p kind)) :
    (f.classify n).resolve = ofValue x := by
  rw [← value_of_evaluates h]
  by_cases hs : n.kind.isStringLiteral = true
  · exact resolve_classify_of_literal hs
  by_cases hk : n.kind = .binaryExpression
  · exact resolve_classify_of_binary hk
  · rw [evaluates_iff, operand_of_other (Bool.eq_false_iff.2 hs) hk] at h
    exact absurd h.symm (hx _ _)

theorem resolve_classify_of_unsupported {n : Go.Node} (hs : n.kind.isStringLiteral = false)
    (hk : n.kind ∉ [.binaryExpression, .identifier, .selectorExpression, .callExpression]) :
    (f.classify n).resolve =
      .ok (.problem ⟨.unhandledExpression n.kind.describe, f.path, n.start.location⟩) := by
  unfold classify
  split
  case h_7 => rfl
  all_goals simp_all [Go.Kind.isStringLiteral]

/-- Resolution gives what the argument resolves to. -/
theorem resolve_classify_of_resolves {n : Go.Node} {x : Except Failure Resolution}
    (h : f.Resolves n x) : (f.classify n).resolve = x := by
  cases h with
  | text h => exact resolve_classify_of_evaluates h nofun
  | malformed h => exact resolve_classify_of_evaluates h nofun
  | failure hk h hf =>
    rw [resolve_classify_of_binary hk, value_of_evaluates h, ofValue_of_failure? hf]
  | identifier hk | selector hk | call hk => rw [classify, hk]; rfl
  | unsupported hs hk => exact resolve_classify_of_unsupported hs hk

/-- Every argument resolves to something. -/
theorem exists_resolves (f : SourceFile) (n : Go.Node) : ∃ x, f.Resolves n x := by
  by_cases hs : n.kind.isStringLiteral = true
  · cases h : Literal.decode (f.text n) with
    | ok text => exact ⟨_, .text (.literal hs h)⟩
    | error e => exact ⟨_, .malformed (.malformed hs h)⟩
  by_cases hk : n.kind ∈ [.binaryExpression, .identifier, .selectorExpression, .callExpression]
  · simp only [List.mem_cons, List.not_mem_nil, or_false] at hk
    rcases hk with hk | hk | hk | hk
    · obtain ⟨x, hx⟩ := f.exists_evaluates n
      cases x with
      | ok text => exact ⟨_, .text hx⟩
      | error fault => cases fault with
        | malformed p e => exact ⟨_, .malformed hx⟩
        | notAnAddition p operator => exact ⟨_, .failure hk hx rfl⟩
        | unhandledOperand p kind => exact ⟨_, .failure hk hx rfl⟩
    · exact ⟨_, .identifier hk⟩
    · exact ⟨_, .selector hk⟩
    · exact ⟨_, .call hk⟩
  · exact ⟨_, .unsupported (Bool.eq_false_iff.2 hs) hk⟩

/-- An argument resolves to what its classification comes to, and to nothing else. -/
theorem resolves_iff {n : Go.Node} {x : Except Failure Resolution} :
    f.Resolves n x ↔ (f.classify n).resolve = x := by
  refine ⟨resolve_classify_of_resolves, ?_⟩
  rintro rfl
  obtain ⟨x, hx⟩ := f.exists_resolves n
  rwa [resolve_classify_of_resolves hx]

/-- Only a binary expression stops the extraction, and only by a fault that it evaluates to. -/
theorem resolve_classify_eq_error_iff {n : Go.Node} {failure : Failure} :
    (f.classify n).resolve = .error failure ↔
      n.kind = .binaryExpression ∧ ∃ fault,
        f.Evaluates n (.error fault) ∧ fault.failure? = some failure := by
  rw [← resolves_iff]
  constructor
  · rintro (_ | _ | ⟨hk, h, hf⟩)
    exact ⟨hk, _, h, hf⟩
  · rintro ⟨hk, fault, h, hf⟩
    exact .failure hk h hf

end SourceFile

end MessageCatalog
