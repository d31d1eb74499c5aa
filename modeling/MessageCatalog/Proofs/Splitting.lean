import MessageCatalog.Literal.Chain
import MessageCatalog.Proofs.Acceptance

/-! # Splitting a literal

A long message is written as several literals with `+` between them.  A body that has a value ends
where one of its pieces ends, so no escape of it reaches into the body behind it, and the encoding of
a text is that of its parts.  Hence the value of two bodies put together is that of the first and
that of the second (`decode_enclose_append`), and a chain has the value of the one literal that it
was split from (`value_of_isSplit`), wherever it was split and however the chain is nested. -/

namespace MessageCatalog

namespace Literal

/-- Bodies that have a value can be put together, and so are their values. -/
theorem decode_enclose_append {a b : List Char} {x y : String}
    (ha : decode (enclose a) = .ok x) (hb : decode (enclose b) = .ok y) :
    decode (enclose (a ++ b)) = .ok (x ++ y) := by
  obtain ⟨front, rfl, hx⟩ := decode_enclose_eq_ok_iff.1 ha
  obtain ⟨back, rfl, hy⟩ := decode_enclose_eq_ok_iff.1 hb
  refine decode_enclose_eq_ok_iff.2 ⟨front ++ back, List.flatMap_append.symm, ?_⟩
  rw [String.toUTF8_eq_toByteArray] at hx hy ⊢
  rw [String.toByteArray_append, hx, hy, List.flatMap_append, List.toByteArray_append]

end Literal

open Literal

namespace Operand

/-- The operand joins interpreted literals with these bodies, from left to right, by `+`. -/
inductive IsSplit : Operand → List (List Char) → Prop
  | literal (body : List Char) (position : Position) :
      IsSplit (.literal (enclose body) position) [body]
  | join (position : Position) {left right : Operand} {front back : List (List Char)} :
      IsSplit left front → IsSplit right back →
        IsSplit (.join "+" position left right) (front ++ back)

/-- Literals that each have a value have, joined, the value of the literal with all their bodies. -/
theorem value_of_isSplit {o : Operand} {bodies : List (List Char)} (h : o.IsSplit bodies)
    (hvalues : ∀ body ∈ bodies, ∃ x, decode (enclose body) = .ok x) :
    ∃ x, o.value = .ok x ∧ decode (enclose bodies.flatten) = .ok x := by
  induction h with
  | literal body position =>
    obtain ⟨x, hx⟩ := hvalues body List.mem_cons_self
    refine ⟨x, by rw [value, hx], ?_⟩
    rwa [List.flatten_singleton]
  | join position _ _ ihl ihr =>
    obtain ⟨x, hleft, hfront⟩ := ihl fun body hb => hvalues body (List.mem_append_left _ hb)
    obtain ⟨y, hright, hback⟩ := ihr fun body hb => hvalues body (List.mem_append_right _ hb)
    refine ⟨x ++ y, ?_, ?_⟩
    · rw [value, if_pos rfl, hleft, hright]
      rfl
    · rw [List.flatten_append]
      exact decode_enclose_append hfront hback

end Operand

/-- Splitting a literal does not change the message: a chain of interpreted literals that each have
a value folds to the value of the one literal with all their bodies, which has one.  So decoding
bodies respects their concatenation. -/
theorem splitting_keeps_the_message :
    (∀ (c : Chain) (bodies : List (List Char)), c.toOperand.IsSplit bodies →
      (∀ body ∈ bodies, ∃ x, decode (enclose body) = .ok x) →
      ∃ x, c.fold = .ok x ∧ decode (enclose bodies.flatten) = .ok x) ∧
    ∀ (a b : List Char) (x y : String), decode (enclose a) = .ok x → decode (enclose b) = .ok y →
      decode (enclose (a ++ b)) = .ok (x ++ y) :=
  ⟨fun _ _ => Operand.value_of_isSplit, fun _ _ _ _ => decode_enclose_append⟩

/-- An octal escape, a digit that it could have taken, and a character of two escapes. -/
def splitBodies : List (List Char) := [['\\', '0', '4', '1'], ['1'], "\\xc3\\xa9".toList]

/-- The bodies of `splitBodies` in a chain. -/
def splitChain : Chain :=
  ⟨"+", ⟨"a.go", 1, 16⟩,
    .join "+" ⟨"a.go", 1, 10⟩
      (.literal (enclose ['\\', '0', '4', '1']) ⟨"a.go", 1, 3⟩)
      (.literal (enclose ['1']) ⟨"a.go", 1, 12⟩),
    .literal (enclose "\\xc3\\xa9".toList) ⟨"a.go", 1, 18⟩⟩

/-- A literal of three parts folds to the value that it has in one. -/
theorem split_literal_keeps_its_message :
    splitChain.toOperand.IsSplit splitBodies ∧
    (∀ body ∈ splitBodies, ∃ x, decode (enclose body) = .ok x) ∧
    splitChain.fold = .ok "!1é" ∧ decode "\"\\0411\\xc3\\xa9\"" = .ok "!1é" := by
  have hsplit : splitChain.toOperand.IsSplit splitBodies :=
    .join _ (.join _ (.literal _ _) (.literal _ _)) (.literal _ _)
  have hfirst : decode (enclose ['\\', '0', '4', '1']) = .ok "!" := by decide +kernel
  have hsecond : decode (enclose ['1']) = .ok "1" := by decide +kernel
  have hthird : decode (enclose "\\xc3\\xa9".toList) = .ok "é" := by decide +kernel
  have hvalues : ∀ body ∈ splitBodies, ∃ x, decode (enclose body) = .ok x := by
    rw [splitBodies, List.forall_mem_cons, List.forall_mem_cons, List.forall_mem_singleton]
    exact ⟨⟨_, hfirst⟩, ⟨_, hsecond⟩, ⟨_, hthird⟩⟩
  obtain ⟨hfold, happend⟩ := splitting_keeps_the_message
  obtain ⟨x, hx, hwhole⟩ := hfold splitChain splitBodies hsplit hvalues
  -- the literal in one piece has the value of its parts
  have hvalue : decode (enclose splitBodies.flatten) = .ok "!1é" :=
    happend _ _ _ _ hfirst (happend _ _ _ _ hsecond hthird)
  rw [hwhole, Except.ok.injEq] at hvalue
  subst hvalue
  exact ⟨hsplit, hvalues, hx, hwhole⟩

end MessageCatalog
