import MessageCatalog.Proofs.Chain
import MessageCatalog.Proofs.Parsing

/-! # Folding a chain

A chain is checked place by place: `Operand.checks` lists what is checked, a node before its left
operand and that before its right one, and `Check.fault?` says what a failed check is reported as.
The list of faults that a chain has is the list of its failed checks (`faults_eq_filterMap`), so
folding ends with the first of them; if there is none, all leaves are literals with a value, and
folding joins these values in the order of the leaves, however the chain is nested. -/

namespace MessageCatalog

/-- What is checked at one place of a chain. -/
inductive Check where
  /-- The operator of a node is `+`. -/
  | operator (sign : String) (position : Position)
  /-- The token of a literal has a value. -/
  | literal (token : String) (position : Position)
  /-- A leaf is a literal, which another kind of expression is not. -/
  | leaf (kind : String) (position : Position)
deriving DecidableEq, Repr

namespace Check

/-- The fault that a failed check is. -/
def fault? : Check → Option ChainError
  | operator sign position => if sign = "+" then none else some (.notAnAddition position sign)
  | literal token position => match Literal.decode token with
    | .ok _ => none
    | .error e => some (.malformed position e)
  | leaf kind position => some (.unhandledOperand position kind)

/-- The check does not fail. -/
def Passes (k : Check) : Prop := k.fault? = none

theorem exists_value_of_passes {token : String} {position : Position}
    (h : (literal token position).Passes) : ∃ value, Literal.decode token = .ok value := by
  rw [Passes, fault?] at h
  cases hdecode : Literal.decode token with
  | ok value => exact ⟨value, rfl⟩
  | error e =>
    rw [hdecode] at h
    cases h

end Check

namespace Operand

/-- The checks of an operand, each node before its operands and the left operand first. -/
def checks : Operand → List Check
  | literal token position => [.literal token position]
  | other kind position => [.leaf kind position]
  | join operator position left right =>
    .operator operator position :: (left.checks ++ right.checks)

/-- The tokens of the literals from left to right. -/
def tokens : Operand → List String
  | literal token _ => [token]
  | other _ _ => []
  | join _ _ left right => left.tokens ++ right.tokens

theorem faults_eq_filterMap (o : Operand) : o.faults = o.checks.filterMap Check.fault? := by
  induction o with
  | literal token position =>
    rw [faults, checks, List.filterMap_cons, Check.fault?]
    cases Literal.decode token with
    | ok value => rfl
    | error e => rfl
  | other kind position => rfl
  | join operator position left right ihl ihr =>
    rw [faults, checks, List.filterMap_cons, List.filterMap_append, ihl, ihr, Check.fault?]
    by_cases hop : operator = "+"
    · rw [if_pos hop, if_pos hop]
      rfl
    · rw [if_neg hop, if_neg hop]
      rfl

theorem texts_eq_filterMap (o : Operand) :
    o.texts = o.tokens.filterMap fun token => (Literal.decode token).toOption := by
  induction o with
  | literal token position =>
    rw [texts, tokens, List.filterMap_cons]
    cases Literal.decode token with
    | ok value => rfl
    | error e => rfl
  | other kind position => rfl
  | join operator position left right ihl ihr =>
    rw [texts, tokens, List.filterMap_append, ihl, ihr]

/-- Each literal is checked. -/
theorem exists_check_of_mem_tokens {o : Operand} {token : String} (h : token ∈ o.tokens) :
    ∃ position, .literal token position ∈ o.checks := by
  induction o with
  | literal _ position =>
    rw [tokens, List.mem_singleton] at h
    exact ⟨position, by rw [h]; exact List.mem_singleton_self _⟩
  | other kind position => cases h
  | join operator position left right ihl ihr =>
    rw [checks]
    rcases List.mem_append.1 h with h | h
    · obtain ⟨p, hp⟩ := ihl h
      exact ⟨p, List.mem_cons_of_mem _ (List.mem_append_left _ hp)⟩
    · obtain ⟨p, hp⟩ := ihr h
      exact ⟨p, List.mem_cons_of_mem _ (List.mem_append_right _ hp)⟩

/-- An operand gives the fault of its first failed check. -/
theorem value_eq_error_iff {o : Operand} {fault : ChainError} :
    o.value = .error fault ↔ o.checks.findSome? Check.fault? = some fault := by
  rw [value_eq, faults_eq_filterMap, List.head?_filterMap]
  cases o.checks.findSome? Check.fault? with
  | none => simp
  | some found => simp

/-- If no check fails, an operand has the joined values of its literals. -/
theorem value_of_passes {o : Operand} (h : ∀ k ∈ o.checks, k.Passes) :
    ∃ values, o.tokens.mapM Literal.decode = .ok values ∧ o.value = .ok (String.join values) := by
  have hdecode : ∀ token ∈ o.tokens, ∃ value, Literal.decode token = .ok value := by
    intro token htoken
    obtain ⟨position, hcheck⟩ := exists_check_of_mem_tokens htoken
    exact Check.exists_value_of_passes (h _ hcheck)
  have hnone : o.faults.head? = none := by
    rw [faults_eq_filterMap, List.head?_filterMap, List.findSome?_eq_none_iff]
    exact h
  refine ⟨_, mapM_of_parsed hdecode, ?_⟩
  rw [value_eq, hnone, texts_eq_filterMap]

end Operand

namespace Chain

/-- The checks of a chain. -/
def checks (c : Chain) : List Check := c.toOperand.checks

/-- The tokens of the literals of a chain from left to right. -/
def tokens (c : Chain) : List String := c.toOperand.tokens

/-- Folding a chain whose checks all pass gives the values of its literals, joined from left to
right; it fails with the fault of the first failed check, and in no other way.  So chains that
pass their checks and have the same literals from left to right have the same value. -/
theorem fold_joins_literals_or_meets_first_fault (c : Chain) :
    ((∀ k ∈ c.checks, k.Passes) → ∃ values,
      c.tokens.mapM Literal.decode = .ok values ∧ c.fold = .ok (String.join values)) ∧
    (∀ fault, c.fold = .error fault ↔ ∃ before k after,
      c.checks = before ++ k :: after ∧ k.fault? = some fault ∧ ∀ j ∈ before, j.Passes) ∧
    ∀ d : Chain, (∀ k ∈ c.checks, k.Passes) → (∀ k ∈ d.checks, k.Passes) →
      d.tokens = c.tokens → d.fold = c.fold := by
  refine ⟨Operand.value_of_passes, fun fault => ?_, fun d hc hd htokens => ?_⟩
  · exact Operand.value_eq_error_iff.trans List.findSome?_eq_some_iff
  · obtain ⟨values, hvalues, hfold⟩ := Operand.value_of_passes hc
    obtain ⟨values', hvalues', hfold'⟩ := Operand.value_of_passes hd
    have hsame : values' = values := by
      rw [show d.toOperand.tokens = c.toOperand.tokens from htokens, hvalues] at hvalues'
      exact (Except.ok.inj hvalues').symm
    rw [fold, fold, hfold', hfold, hsame]

/-- Three literals joined from the right. -/
def rightNested : Chain :=
  ⟨"+", ⟨"a.go", 1, 7⟩, .literal "\"a\"" ⟨"a.go", 1, 3⟩,
    .join "+" ⟨"a.go", 1, 14⟩
      (.literal "\"\\x62\"" ⟨"a.go", 1, 9⟩) (.literal "`c`" ⟨"a.go", 1, 16⟩)⟩

/-- The same literals joined from the left. -/
def leftNested : Chain :=
  ⟨"+", ⟨"a.go", 1, 14⟩,
    .join "+" ⟨"a.go", 1, 7⟩
      (.literal "\"a\"" ⟨"a.go", 1, 3⟩) (.literal "\"\\x62\"" ⟨"a.go", 1, 9⟩),
    .literal "`c`" ⟨"a.go", 1, 16⟩⟩

/-- An operator, a literal and an operand that are all at fault, in this order. -/
def faulty : Chain :=
  ⟨"+", ⟨"a.go", 1, 7⟩, .literal "\"a\"" ⟨"a.go", 1, 3⟩,
    .join "-" ⟨"a.go", 1, 14⟩
      (.literal "\"\\q\"" ⟨"a.go", 1, 9⟩) (.other "identifier" ⟨"a.go", 1, 16⟩)⟩

/-- Nesting does not matter, and of three faults the first is met. -/
theorem nested_literals_fold_alike :
    (∀ k ∈ rightNested.checks, k.Passes) ∧ rightNested.fold = .ok "abc" ∧
    leftNested.fold = rightNested.fold ∧
    faulty.fold = .error (.notAnAddition ⟨"a.go", 1, 14⟩ "-") := by
  have hright : ∀ k ∈ rightNested.checks, k.Passes := by
    unfold Check.Passes
    decide +kernel
  have hleft : ∀ k ∈ leftNested.checks, k.Passes := by
    unfold Check.Passes
    decide +kernel
  obtain ⟨hfold, _, hsame⟩ := fold_joins_literals_or_meets_first_fault rightNested
  obtain ⟨_, hfault, _⟩ := fold_joins_literals_or_meets_first_fault faulty
  refine ⟨hright, ?_, hsame leftNested hright hleft rfl, ?_⟩
  · obtain ⟨values, hvalues, hfold⟩ := hfold hright
    have hdecoded :
        (rightNested.tokens.mapM Literal.decode).toOption = some ["a", "b", "c"] := by
      decide +kernel
    rw [hvalues] at hdecoded
    rw [hfold, Option.some.inj hdecoded]
    rfl
  · refine (hfault _).2 ⟨faulty.checks.take 2, .operator "-" ⟨"a.go", 1, 14⟩,
      faulty.checks.drop 3, rfl, rfl, ?_⟩
    unfold Check.Passes
    decide +kernel

end Chain

end MessageCatalog
