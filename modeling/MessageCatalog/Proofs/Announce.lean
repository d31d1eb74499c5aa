import Mathlib.Data.List.TakeWhile
import MessageCatalog.Proofs.Chain
import MessageCatalog.Proofs.Report
import MessageCatalog.Proofs.Site

/-! # What the verdicts of sites write

Every diagnostic is about a place in the file of its call (`file_diagnostic`), also where it comes
from deep inside a chain.  So, if the text of that file is cached and the stream has no limit,
announcing sites never touches the disk: it writes the texts of their diagnostics in order up to
the first site that fails, and stops there with that failure (`foldlM_announce`). -/

namespace MessageCatalog

/-! ### Diagnostics stay in their file -/

namespace ChainError

/-- Where the fault is. -/
def position : ChainError → Position
  | malformed p _ | notAnAddition p _ | unhandledOperand p _ => p

end ChainError

namespace Operand

/-- All faults of the operand are in a file. -/
def FaultsIn (path : String) (o : Operand) : Prop := ∀ fault ∈ o.faults, fault.position.file = path

variable {path : String}

theorem faultsIn_literal (token : String) {p : Position} (h : p.file = path) :
    (literal token p).FaultsIn path := by
  intro fault hf
  rw [faults] at hf
  cases hd : Literal.decode token with
  | ok value => simp [hd] at hf
  | error e =>
    rw [hd, List.mem_singleton] at hf
    rw [hf]
    exact h

theorem faultsIn_other (kind : String) {p : Position} (h : p.file = path) :
    (other kind p).FaultsIn path := by
  intro fault hf
  rw [faults, List.mem_singleton] at hf
  rw [hf]
  exact h

theorem faultsIn_join (operator : String) {p : Position} {left right : Operand}
    (h : p.file = path) (hl : left.FaultsIn path) (hr : right.FaultsIn path) :
    (join operator p left right).FaultsIn path := by
  intro fault hf
  rw [faults, List.mem_append, List.mem_append] at hf
  rcases hf with (hf | hf) | hf
  · split at hf
    · simp at hf
    · rw [List.mem_singleton] at hf
      rw [hf]
      exact h
  · exact hl fault hf
  · exact hr fault hf

end Operand

namespace Argument

theorem position_problem_literal {token : String} {p : Position} {d : Diagnostic}
    (h : (literal token p).resolve = .ok (.problem d)) : d.position = p := by
  rw [resolve] at h
  cases hd : Literal.decode token with
  | ok text => simp [hd] at h
  | error e =>
    rw [hd, Except.ok.injEq, malformed, Resolution.problem.injEq] at h
    rw [← h]

theorem position_problem_concatenation {chain : Chain} {d : Diagnostic}
    (h : (concatenation chain).resolve = .ok (.problem d)) :
    ∃ fault ∈ chain.toOperand.faults, d.position = fault.position := by
  rw [resolve, Chain.fold, Operand.value_eq] at h
  cases hf : chain.toOperand.faults.head? with
  | none => simp [hf] at h
  | some fault =>
    refine ⟨fault, List.mem_of_head? hf, ?_⟩
    cases fault with
    | malformed p e =>
      rw [hf, Except.ok.injEq, malformed, Resolution.problem.injEq] at h
      rw [← h]
      rfl
    | notAnAddition p operator => simp [hf] at h
    | unhandledOperand p kind => simp [hf] at h

end Argument

namespace SourceFile

variable (f : SourceFile)

theorem file_operator (n : Go.Node) : (f.operator n).2.file = f.path := by
  unfold operator
  split <;> rfl

theorem faultsIn_missingOperand (n : Go.Node) : (f.missingOperand n).FaultsIn f.path :=
  Operand.faultsIn_other _ rfl

mutual

theorem faultsIn_operand : ∀ (n : Go.Node), (f.operand n).FaultsIn f.path
  | .mk kind role start stop children => by
      rw [operand]
      split
      · exact Operand.faultsIn_literal _ rfl
      · split
        · exact Operand.faultsIn_join _ (f.file_operator _)
            (faultsIn_operandIn .left (f.faultsIn_missingOperand _) children)
            (faultsIn_operandIn .right (f.faultsIn_missingOperand _) children)
        · exact Operand.faultsIn_other _ rfl

theorem faultsIn_operandIn (r : Go.Role) {default : Operand} (h : default.FaultsIn f.path) :
    ∀ (ns : List Go.Node), (f.operandIn r default ns).FaultsIn f.path
  | [] => by
      rw [operandIn]
      exact h
  | .mk kind role start stop children :: ns => by
      rw [operandIn]
      split
      · exact faultsIn_operand (.mk kind role start stop children)
      · exact faultsIn_operandIn r h ns

end

theorem faultsIn_chain (n : Go.Node) : (f.chain n).toOperand.FaultsIn f.path :=
  Operand.faultsIn_join _ (f.file_operator n)
    (f.faultsIn_operandIn .left (f.faultsIn_missingOperand n) n.children)
    (f.faultsIn_operandIn .right (f.faultsIn_missingOperand n) n.children)

/-- A problem with an argument is in the file of the argument. -/
theorem file_problem {n : Go.Node} {d : Diagnostic}
    (h : (f.classify n).resolve = .ok (.problem d)) : d.position.file = f.path := by
  unfold classify at h
  split at h
  case h_1 | h_2 => rw [Argument.position_problem_literal h]; rfl
  case h_3 =>
    obtain ⟨fault, hf, hp⟩ := Argument.position_problem_concatenation h
    rw [hp]
    exact f.faultsIn_chain n fault hf
  all_goals
    rw [Argument.resolve, Except.ok.injEq, Resolution.problem.injEq] at h
    rw [← h]
    rfl

end SourceFile

/-- A diagnostic is in the file of its call. -/
theorem Site.file_diagnostic {a : Associator} {s : Site} {d : Diagnostic}
    (h : (s.verdict a).diagnostic? = some d) : d.position.file = s.file.path := by
  have hresolved : ∀ comment, (s.resolved comment).diagnostic? = some d →
      d.position.file = s.file.path := by
    intro comment h
    unfold resolved at h
    cases hfirst : s.arguments.firstArgument? with
    | none =>
      rw [hfirst, Verdict.diagnostic?, Option.some.injEq] at h
      rw [← h]
      rfl
    | some argument =>
      rw [hfirst] at h
      simp only at h
      cases hr : (s.file.classify argument).resolve with
      | error e => simp [hr, Verdict.ofResolution, Verdict.diagnostic?] at h
      | ok resolution => cases resolution with
        | text text => simp [hr, Verdict.ofResolution, Verdict.diagnostic?] at h
        | problem d' =>
          obtain rfl : d' = d := by
            simpa [hr, Verdict.ofResolution, Verdict.diagnostic?] using h
          exact s.file.file_problem hr
  unfold verdict at h
  split at h
  · rw [Verdict.diagnostic?, Option.some.injEq] at h
    rw [← h]
    rfl
  · exact hresolved _ h
  · exact hresolved _ h

/-! ### Announcing sites -/

namespace Site

/-- The text that is written for a site, if its verdict has a diagnostic. -/
def report? (a : Associator) (color : Bool) (width : Char → Nat) (s : Site) : Option String :=
  (s.verdict a).diagnostic?.map
    (Diagnostic.rendering color width (SourceCache.splitLines s.file.source))

/-- The texts that are written for sites, in order. -/
def reports (a : Associator) (r : Reporter) (ss : List Site) : List String :=
  ss.filterMap (report? a r.color r.width)

theorem reports_append (a : Associator) (r : Reporter) (ss ts : List Site) :
    reports a r (ss ++ ts) = reports a r ss ++ reports a r ts :=
  List.filterMap_append

/-- The text of the file is what the reporter has cached for its path. -/
def IsCached (r : Reporter) (s : Site) : Prop :=
  r.cache.files.get? s.file.path = some (SourceCache.splitLines s.file.source)

variable {a : Associator} {r : Reporter}

theorem announce_of_ok {s : Site} (ho : r.stream.IsOpen) (hc : s.IsCached r)
    (hs : (s.verdict a).failure? = none) (disk : Disk) :
    (s.verdict a).announce disk r = .ok (r.after (reports a r [s])) := by
  have hreport : ∀ d, (s.verdict a).diagnostic? = some d →
      r.report disk d = .ok (r.after (reports a r [s])) := by
    intro d hd
    have hfile : r.cache.files.get? d.position.file =
        some (SourceCache.splitLines s.file.source) := by
      rw [file_diagnostic hd]
      exact hc
    rw [Reporter.report_of_cached ho hfile]
    simp [reports, report?, hd]
  cases hv : s.verdict a with
  | ignored d => exact hreport d (by rw [hv]; rfl)
  | problem d => exact hreport d (by rw [hv]; rfl)
  | found text comment => simp [Verdict.announce, reports, report?, hv, Verdict.diagnostic?]
  | failure e => simp [hv, Verdict.failure?] at hs

theorem announce_of_failure {s : Site} {e : Failure} (h : (s.verdict a).failure? = some e)
    (disk : Disk) : (s.verdict a).announce disk r = .error ⟨e, r⟩ := by
  cases hv : s.verdict a with
  | failure e' =>
    obtain rfl : e' = e := by simpa [hv, Verdict.failure?] using h
    rfl
  | ignored d => simp [hv, Verdict.failure?] at h
  | problem d => simp [hv, Verdict.failure?] at h
  | found text comment => simp [hv, Verdict.failure?] at h

/-- The first failure among sites. -/
def firstFailure? (a : Associator) (ss : List Site) : Option Failure :=
  ss.findSome? fun s => (s.verdict a).failure?

/-- The sites before the first that fails. -/
def beforeFailure (a : Associator) (ss : List Site) : List Site :=
  ss.takeWhile fun s => (s.verdict a).failure?.isNone

theorem firstFailure?_eq_none_iff {ss : List Site} :
    firstFailure? a ss = none ↔ ∀ s ∈ ss, (s.verdict a).failure? = none :=
  List.findSome?_eq_none_iff

theorem beforeFailure_of_none {ss : List Site} (h : firstFailure? a ss = none) :
    beforeFailure a ss = ss := by
  rw [beforeFailure, List.takeWhile_eq_self_iff]
  intro s hs
  rw [firstFailure?_eq_none_iff.1 h s hs]
  rfl

/-- Sites in cached files write their reports up to the first failure, which ends the run. -/
theorem foldlM_announce (disk : Disk) : ∀ {ss : List Site} {r : Reporter},
    r.stream.IsOpen → (∀ s ∈ ss, s.IsCached r) →
      ss.foldlM (fun r s => (s.verdict a).announce disk r) r =
        (r.after (reports a r (beforeFailure a ss))).ending (firstFailure? a ss)
  | [], r, _, _ => by
      simp only [beforeFailure, List.takeWhile_nil, reports, List.filterMap_nil,
        Reporter.after_nil]
      rfl
  | s :: ss, r, ho, hc => by
      rw [List.foldlM_cons, beforeFailure, firstFailure?, List.takeWhile_cons,
        List.findSome?_cons]
      cases hs : (s.verdict a).failure? with
      | some e =>
        rw [announce_of_failure hs]
        simp [reports, Reporter.ending, bind, Except.bind]
      | none =>
        rw [announce_of_ok ho (hc s List.mem_cons_self) hs]
        have hrest : ∀ t ∈ ss, t.IsCached (r.after (reports a r [s])) :=
          fun t ht => hc t (List.mem_cons_of_mem _ ht)
        have ih := foldlM_announce disk (r := r.after (reports a r [s])) ho hrest
        refine ih.trans ?_
        rw [Reporter.after_after]
        simp only [Option.isNone_none, ↓reduceIte]
        exact congrArg (fun texts => (r.after texts).ending (firstFailure? a ss))
          (reports_append a r [s] (beforeFailure a ss)).symm

end Site

end MessageCatalog
