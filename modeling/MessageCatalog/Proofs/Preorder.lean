import Mathlib.Data.List.Lex
import MessageCatalog.Proofs.Site

/-! # A walk stops at every node once

Nodes of a tree may be alike, so they are told apart by their addresses: the numbers of the children
on the way down.  Pre-order is an order of addresses (`Address.Precedes`): a node comes before those
below it, and before those that branch off further to the right.

`Cursor.Walks` describes the two loops of a walk by their moves.  What carries the proofs is one
fact about a round of the outer loop: of the nodes that the walk admits and that come after the one
it leaves, the cursor moves on to the first (`Stands.next`, `Stands.exists_next?`).  A walk from the
root therefore stops at all admitted nodes, in pre-order (`isTour_trail`). -/

namespace MessageCatalog.Go

/-! ### Addresses -/

/-- The way down to a node: the numbers of the children, counted from zero. -/
abbrev Address := List Nat

namespace Address

/-- The way to `b` goes on from `a`. -/
def IsAbove (a b : Address) : Prop := ∃ i c, b = a ++ i :: c

/-- Where the ways to `a` and `b` part, the one to `a` is further to the left. -/
def IsLeftOf (a b : Address) : Prop :=
  ∃ way i j c d, i < j ∧ a = way ++ i :: c ∧ b = way ++ j :: d

/-- The address `a` comes before `b` in pre-order. -/
def Precedes (a b : Address) : Prop := IsAbove a b ∨ IsLeftOf a b

theorem precedes_iff_lex {a b : Address} : Precedes a b ↔ List.Lex (· < ·) a b := by
  constructor
  · rintro (⟨i, c, rfl⟩ | ⟨way, i, j, c, d, hij, rfl, rfl⟩)
    · have hlex := List.Lex.append_left (· < ·) (.nil : List.Lex _ [] (i :: c)) a
      rwa [List.append_nil] at hlex
    · exact .append_left _ (.rel hij) way
  · intro h
    induction h with
    | nil => exact .inl ⟨_, _, rfl⟩
    | rel hij => exact .inr ⟨[], _, _, _, _, hij, rfl, rfl⟩
    | cons _ ih =>
      rcases ih with ⟨i, c, rfl⟩ | ⟨way, i, j, c, d, hij, rfl, rfl⟩
      · exact .inl ⟨i, c, rfl⟩
      · exact .inr ⟨_ :: way, i, j, c, d, hij, rfl, rfl⟩

theorem Precedes.trans {a b c : Address} (hab : Precedes a b) (hbc : Precedes b c) :
    Precedes a c :=
  precedes_iff_lex.2
    (List.lex_trans Nat.lt_trans (precedes_iff_lex.1 hab) (precedes_iff_lex.1 hbc))

theorem Precedes.asymm {a b : Address} (h : Precedes a b) : ¬ Precedes b a := fun hba =>
  List.lex_asymm Nat.lt_asymm (precedes_iff_lex.1 h) (precedes_iff_lex.1 hba)

theorem Precedes.ne {a b : Address} (h : Precedes a b) : a ≠ b := by
  rintro rfl
  exact h.asymm h

theorem not_isAbove_nil (a : Address) : ¬ IsAbove a [] := by
  rintro ⟨i, c, h⟩
  cases a <;> cases h

theorem not_isLeftOf_nil (b : Address) : ¬ IsLeftOf [] b := by
  rintro ⟨way, i, j, c, d, _, h, _⟩
  cases way <;> cases h

theorem isAbove_concat_iff {a way : Address} {k : Nat} :
    IsAbove a (way ++ [k]) ↔ a = way ∨ IsAbove a way := by
  constructor
  · rintro ⟨i, c, h⟩
    rcases List.eq_nil_or_concat' c with rfl | ⟨c, j, rfl⟩
    · exact .inl (List.append_inj' h rfl).1.symm
    · rw [← List.cons_append, ← List.append_assoc] at h
      exact .inr ⟨i, c, (List.append_inj' h rfl).1⟩
  · rintro (rfl | ⟨i, c, rfl⟩)
    · exact ⟨k, [], rfl⟩
    · exact ⟨i, c ++ [k], by rw [List.append_assoc, List.cons_append]⟩

/-- A child is to the left of what its parent is to the left of, and of what goes down from the
parent by a later child. -/
theorem isLeftOf_concat_iff {way b : Address} {k : Nat} :
    IsLeftOf (way ++ [k]) b ↔ IsLeftOf way b ∨ ∃ j d, k < j ∧ b = way ++ j :: d := by
  constructor
  · rintro ⟨front, i, j, c, d, hij, h, rfl⟩
    rcases List.eq_nil_or_concat' c with rfl | ⟨c, l, rfl⟩
    · obtain ⟨rfl, hk⟩ := List.append_inj' h rfl
      obtain rfl : k = i := List.head_eq_of_cons_eq hk
      exact .inr ⟨j, d, hij, rfl⟩
    · rw [← List.cons_append, ← List.append_assoc] at h
      exact .inl ⟨front, i, j, c, d, hij, (List.append_inj' h rfl).1, rfl⟩
  · rintro (⟨front, i, j, c, d, hij, rfl, rfl⟩ | ⟨j, d, hkj, rfl⟩)
    · exact ⟨front, i, j, c ++ [k], d, hij, by rw [List.append_assoc, List.cons_append], rfl⟩
    · exact ⟨way, k, j, [], d, hkj, rfl, rfl⟩

/-- An address that goes down by the child `k` or a later one is that child or comes after it. -/
theorem eq_or_precedes_of_le {k j : Nat} (h : k ≤ j) (way d : Address) :
    way ++ [k] = way ++ j :: d ∨ Precedes (way ++ [k]) (way ++ j :: d) := by
  rcases Nat.lt_or_eq_of_le h with hlt | rfl
  · exact .inr (.inr (isLeftOf_concat_iff.2 (.inr ⟨j, d, hlt, rfl⟩)))
  · cases d with
    | nil => exact .inl rfl
    | cons i d => exact .inr (.inl ⟨i, d, by rw [List.append_assoc, List.singleton_append]⟩)

/-- Where addresses ascend, one that precedes another stands before it. -/
theorem sublist_of_precedes {as : List Address} (has : as.Pairwise Precedes) {a b : Address}
    (ha : a ∈ as) (hb : b ∈ as) (h : Precedes a b) : [a, b].Sublist as := by
  induction as with
  | nil => exact absurd ha List.not_mem_nil
  | cons c as ih =>
    obtain ⟨hc, has⟩ := List.pairwise_cons.1 has
    rcases List.mem_cons.1 ha with rfl | ha'
    · rcases List.mem_cons.1 hb with rfl | hb'
      · exact absurd rfl h.ne
      · exact (List.singleton_sublist.2 hb').cons_cons a
    · rcases List.mem_cons.1 hb with rfl | hb'
      · exact absurd (hc a ha') h.asymm
      · exact (ih has ha' hb').cons c

end Address

open Address

/-- The node at an address of a tree. -/
def Node.at? (n : Node) : Address → Option Node
  | [] => some n
  | i :: a => n.children[i]?.bind (·.at? a)

theorem Node.at?_append (a b : Address) : ∀ n : Node,
    n.at? (a ++ b) = (n.at? a).bind (·.at? b) := by
  induction a with
  | nil => exact fun n => rfl
  | cons i a ih =>
    intro n
    simp only [List.cons_append, at?, Option.bind_assoc, ih]

theorem Node.at?_append_cons {root n : Node} {a : Address} (h : root.at? a = some n) (i : Nat)
    (b : Address) : root.at? (a ++ i :: b) = n.children[i]?.bind (·.at? b) := by
  rw [at?_append, h, Option.bind_some, at?]

namespace Cursor

/-- The address of a node with these siblings to its right and these ancestors. -/
def addressIn (later : List Node) : List (Node × List Node) → Address
  | [] => []
  | (p, ps) :: above => addressIn ps above ++ [p.children.length - (later.length + 1)]

/-- The address of the node under the cursor. -/
def address (c : Cursor) : Address := addressIn c.later c.above

/-! ### The moves of a walk -/

/-- The inner loop of a walk, from the cursor on: go to the next sibling, else to the parent and
try again, else there is nowhere to go on. -/
inductive Leaves : Cursor → Option Cursor → Prop where
  | sibling {c d : Cursor} (moved : c.nextSibling? = some d) : Leaves c (some d)
  | climb {c p : Cursor} {next : Option Cursor} (noSibling : c.nextSibling? = none)
      (moved : c.parent? = some p) (more : Leaves p next) : Leaves c next
  | done {c : Cursor} (noSibling : c.nextSibling? = none) (noParent : c.parent? = none) :
      Leaves c none

/-- The outer loop of a walk, with the cursors at which it stops: from each it goes to the first
child, if the node is entered and has one, else the inner loop decides. -/
inductive Walks (enter : Node → Bool) : Cursor → List Cursor → Prop where
  | down {c d : Cursor} {stops : List Cursor} (entered : enter c.node = true)
      (moved : c.firstChild? = some d) (more : Walks enter d stops) : Walks enter c (c :: stops)
  | onward {c d : Cursor} {stops : List Cursor}
      (notDown : enter c.node = false ∨ c.firstChild? = none) (leaves : Leaves c (some d))
      (more : Walks enter d stops) : Walks enter c (c :: stops)
  | done {c : Cursor} (notDown : enter c.node = false ∨ c.firstChild? = none)
      (leaves : Leaves c none) : Walks enter c [c]

theorem leaves_advance? (c : Cursor) : Leaves c c.advance? := by
  fun_induction advance? c with
  | case1 c d hd => exact .sibling hd
  | case2 c hs p hp ih => exact .climb hs hp ih
  | case3 c hs hp => exact .done hs hp

theorem next?_cases (enter : Node → Bool) (c : Cursor) :
    (enter c.node = true ∧ ∃ d, c.firstChild? = some d ∧ c.next? enter = some d) ∨
      (enter c.node = false ∨ c.firstChild? = none) ∧ c.next? enter = c.advance? := by
  unfold next?
  cases enter c.node with
  | false => exact .inr ⟨.inl rfl, rfl⟩
  | true => cases c.firstChild? with
    | none => exact .inr ⟨.inr rfl, rfl⟩
    | some d => exact .inl ⟨rfl, d, rfl, rfl⟩

/-- The cursors at which a walk stops. -/
def trail (enter : Node → Bool) (c : Cursor) : List Cursor :=
  c :: match _h : c.next? enter with
    | some d => d.trail enter
    | none => []
termination_by c.remaining
decreasing_by exact remaining_next?_lt _h

theorem trail_of_some {enter : Node → Bool} {c d : Cursor} (h : c.next? enter = some d) :
    c.trail enter = c :: d.trail enter := by
  rw [trail]
  split
  · next d' h' => rw [Option.some.inj (h.symm.trans h')]
  · next h' => cases h.symm.trans h'

theorem trail_of_none {enter : Node → Bool} {c : Cursor} (h : c.next? enter = none) :
    c.trail enter = [c] := by
  rw [trail]
  split
  · next d' h' => cases h.symm.trans h'
  · rfl

/-- A walk ends, with the cursors of the trail as its stops. -/
theorem walks_trail (enter : Node → Bool) (c : Cursor) : Walks enter c (c.trail enter) := by
  induction c using walk_induction enter with
  | last c h =>
    rw [trail_of_none h]
    rcases c.next?_cases enter with ⟨_, d, _, hd⟩ | ⟨hnot, hd⟩
    · cases h.symm.trans hd
    · exact .done hnot (h.symm.trans hd ▸ c.leaves_advance?)
  | step c d h ih =>
    rw [trail_of_some h]
    rcases c.next?_cases enter with ⟨hentered, e, he, hd⟩ | ⟨hnot, hd⟩
    · obtain rfl : d = e := Option.some.inj (h.symm.trans hd)
      exact .down hentered he ih
    · exact .onward hnot (h.symm.trans hd ▸ c.leaves_advance?) ih

theorem map_node_trail (enter : Node → Bool) (c : Cursor) :
    (c.trail enter).map (·.node) = c.walk enter := by
  induction c using walk_induction enter with
  | last c h => rw [trail_of_none h, walk_of_none h, List.map_singleton]
  | step c d h ih => rw [trail_of_some h, walk_of_some h, List.map_cons, ih]

/-! ### Cursors in a tree -/

/-- The cursor is one that a walk through the tree can come to: what it knows of the way back is
that of its node, and the ancestors of the node are entered. -/
inductive Stands (enter : Node → Bool) (root : Node) : Cursor → Prop where
  | root : Stands enter root (ofRoot root)
  | child {p n : Node} {ps earlier later : List Node} {above : List (Node × List Node)}
      (parent : Stands enter root ⟨p, ps, above⟩) (entered : enter p = true)
      (children : p.children = earlier ++ n :: later) :
      Stands enter root ⟨n, later, (p, ps) :: above⟩

variable {enter : Node → Bool} {root : Node} {c d : Cursor}

theorem address_child {p n : Node} {ps earlier later : List Node}
    {above : List (Node × List Node)} (h : p.children = earlier ++ n :: later) :
    address ⟨n, later, (p, ps) :: above⟩ = address ⟨p, ps, above⟩ ++ [earlier.length] := by
  have hindex : p.children.length - (later.length + 1) = earlier.length := by
    rw [h, List.length_append, List.length_cons, Nat.add_sub_cancel]
  rw [address, addressIn, hindex, address]

theorem Stands.at?_address (h : Stands enter root c) : root.at? c.address = some c.node := by
  induction h with
  | root => rfl
  | child parent entered children ih =>
    rw [address_child children, Node.at?_append_cons ih, children,
      List.getElem?_append_right (Nat.le_refl _), Nat.sub_self]
    rfl

/-- The walk enters all ancestors of the address. -/
def Admits (enter : Node → Bool) (root : Node) (a : Address) : Prop :=
  ∀ b m, IsAbove b a → root.at? b = some m → enter m = true

theorem Stands.admits (h : Stands enter root c) : Admits enter root c.address := by
  induction h with
  | root => exact fun b _ hb => absurd hb (not_isAbove_nil b)
  | child parent entered children ih =>
    intro b m hb hm
    rw [address_child children] at hb
    rcases isAbove_concat_iff.1 hb with rfl | hb
    · rw [parent.at?_address] at hm
      rw [← Option.some.inj hm]
      exact entered
    · exact ih b m hb hm

theorem Stands.firstChild (h : Stands enter root c) (entered : enter c.node = true)
    (moved : c.firstChild? = some d) :
    Stands enter root d ∧ d.address = c.address ++ [0] := by
  unfold firstChild? at moved
  split at moved
  · cases moved
  · next n ns hchildren =>
    cases moved
    have hfirst : c.node.children = [] ++ n :: ns := hchildren
    exact ⟨.child h entered hfirst, address_child hfirst⟩

/-- The next sibling of a node stands one further to the right. -/
theorem Stands.nextSibling (h : Stands enter root c) (moved : c.nextSibling? = some d) :
    Stands enter root d ∧
      ∃ way k, c.address = way ++ [k] ∧ d.address = way ++ [k + 1] := by
  cases h with
  | root => cases moved
  | @child p n ps earlier later above parent entered children =>
    cases later with
    | nil => cases moved
    | cons m later =>
      cases moved
      have hchildren : p.children = (earlier ++ [n]) ++ m :: later := by
        rw [children, List.append_assoc, List.singleton_append]
      refine ⟨.child parent entered hchildren, _, _, address_child children, ?_⟩
      rw [address_child hchildren, List.length_append, List.length_singleton]

/-- A node without a next sibling is the last child of its parent. -/
theorem Stands.parent (h : Stands enter root c) (last : c.nextSibling? = none)
    (moved : c.parent? = some d) : Stands enter root d ∧
      ∃ k, c.address = d.address ++ [k] ∧ d.node.children.length = k + 1 := by
  cases h with
  | root => cases moved
  | @child p n ps earlier later above parent entered children =>
    cases later with
    | cons m later => cases last
    | nil =>
      cases moved
      refine ⟨parent, _, address_child children, ?_⟩
      rw [children, List.length_append, List.length_singleton]

theorem Stands.address_of_no_parent (h : Stands enter root c) (top : c.parent? = none) :
    c.address = [] := by
  cases h with
  | root => rfl
  | child => cases top

/-! ### A round of the walk -/

theorem Stands.advance (h : Stands enter root c) (moved : c.advance? = some d) :
    Stands enter root d ∧ IsLeftOf c.address d.address := by
  fun_induction advance? c with
  | case1 c e he =>
    cases moved
    obtain ⟨hd, way, k, hc, hd'⟩ := h.nextSibling he
    refine ⟨hd, ?_⟩
    rw [hc, hd']
    exact isLeftOf_concat_iff.2 (.inr ⟨k + 1, [], Nat.lt_succ_self k, rfl⟩)
  | case2 c hs p hp ih =>
    obtain ⟨hparent, k, hc, _⟩ := h.parent hs hp
    obtain ⟨hd, hleft⟩ := ih hparent moved
    refine ⟨hd, ?_⟩
    rw [hc]
    exact isLeftOf_concat_iff.2 (.inl hleft)
  | case3 => cases moved

/-- Leaving a tree, the cursor passes by no node that the tree is to the left of. -/
theorem Stands.exists_advance? (h : Stands enter root c) {a : Address} {n : Node}
    (ha : root.at? a = some n) (hleft : IsLeftOf c.address a) :
    ∃ d, c.advance? = some d ∧ (d.address = a ∨ Precedes d.address a) := by
  fun_induction advance? c with
  | case1 c e he =>
    obtain ⟨_, way, k, hc, he'⟩ := h.nextSibling he
    refine ⟨e, rfl, ?_⟩
    rw [hc] at hleft
    rw [he']
    rcases isLeftOf_concat_iff.1 hleft with hleft | ⟨j, rest, hkj, rfl⟩
    · exact .inr (.inr (isLeftOf_concat_iff.2 (.inl hleft)))
    · exact eq_or_precedes_of_le hkj way rest
  | case2 c hs p hp ih =>
    obtain ⟨hparent, k, hc, hlength⟩ := h.parent hs hp
    rw [hc] at hleft
    rcases isLeftOf_concat_iff.1 hleft with hleft | ⟨j, rest, hkj, rfl⟩
    · exact ih hparent hleft
    · -- there is no child behind the last one
      rw [Node.at?_append_cons hparent.at?_address, List.getElem?_eq_none (by omega)] at ha
      cases ha
  | case3 c hs hp =>
    rw [h.address_of_no_parent hp] at hleft
    exact absurd hleft (not_isLeftOf_nil a)

theorem Stands.next (h : Stands enter root c) (moved : c.next? enter = some d) :
    Stands enter root d ∧ Precedes c.address d.address := by
  rcases c.next?_cases enter with ⟨entered, e, he, hnext⟩ | ⟨_, hnext⟩
  · obtain rfl : d = e := Option.some.inj (moved.symm.trans hnext)
    obtain ⟨hd, haddress⟩ := h.firstChild entered he
    exact ⟨hd, .inl ⟨0, [], haddress⟩⟩
  · obtain ⟨hd, hleft⟩ := h.advance (hnext.symm.trans moved)
    exact ⟨hd, .inr hleft⟩

/-- Going on, the cursor passes by no node that the walk admits. -/
theorem Stands.exists_next? (h : Stands enter root c) {a : Address} {n : Node}
    (ha : root.at? a = some n) (hadmits : Admits enter root a) (hlt : Precedes c.address a) :
    ∃ d, c.next? enter = some d ∧ (d.address = a ∨ Precedes d.address a) := by
  rcases c.next?_cases enter with ⟨entered, d, hd, hnext⟩ | ⟨hnot, hnext⟩
  · refine ⟨d, hnext, ?_⟩
    rw [(h.firstChild entered hd).2]
    rcases hlt with ⟨i, rest, rfl⟩ | hleft
    · exact eq_or_precedes_of_le (Nat.zero_le i) c.address rest
    · exact .inr (.inr (isLeftOf_concat_iff.2 (.inl hleft)))
  · rw [hnext]
    rcases hlt with habove | hleft
    · -- below the node there is nothing that the walk admits
      have hentered : enter c.node = true := hadmits _ _ habove h.at?_address
      obtain ⟨i, rest, rfl⟩ := habove
      rw [Node.at?_append_cons h.at?_address] at ha
      rcases hnot with hnot | hnot
      · cases hentered.symm.trans hnot
      · rw [children_of_firstChild? hnot] at ha
        cases ha
    · exact h.exists_advance? ha hleft

/-! ### Whole walks -/

theorem stands_of_mem_trail (h : Stands enter root c) : ∀ d ∈ c.trail enter,
    Stands enter root d ∧ (d = c ∨ Precedes c.address d.address) := by
  induction c using walk_induction enter with
  | last c hnext =>
    rw [trail_of_none hnext]
    intro d hd
    obtain rfl := List.mem_singleton.1 hd
    exact ⟨h, .inl rfl⟩
  | step c e hnext ih =>
    rw [trail_of_some hnext]
    obtain ⟨he, hlt⟩ := h.next hnext
    intro d hd
    rcases List.mem_cons.1 hd with rfl | hd
    · exact ⟨h, .inl rfl⟩
    · obtain ⟨hstands, rfl | hle⟩ := ih he d hd
      · exact ⟨hstands, .inr hlt⟩
      · exact ⟨hstands, .inr (hlt.trans hle)⟩

theorem pairwise_trail (h : Stands enter root c) :
    (c.trail enter).Pairwise fun d e => Precedes d.address e.address := by
  induction c using walk_induction enter with
  | last c hnext =>
    rw [trail_of_none hnext]
    exact List.pairwise_singleton _ _
  | step c e hnext ih =>
    obtain ⟨he, hlt⟩ := h.next hnext
    rw [trail_of_some hnext]
    refine List.pairwise_cons.2 ⟨fun d hd => ?_, ih he⟩
    obtain ⟨_, rfl | hle⟩ := stands_of_mem_trail he d hd
    · exact hlt
    · exact hlt.trans hle

theorem mem_trail_of_admits (h : Stands enter root c) {a : Address} {n : Node}
    (ha : root.at? a = some n) (hadmits : Admits enter root a)
    (hle : c.address = a ∨ Precedes c.address a) : ∃ d ∈ c.trail enter, d.address = a := by
  induction c using walk_induction enter with
  | last c hnext =>
    rcases hle with hle | hlt
    · exact ⟨c, by rw [trail_of_none hnext]; exact List.mem_singleton_self c, hle⟩
    · obtain ⟨d, hd, _⟩ := h.exists_next? ha hadmits hlt
      cases hnext.symm.trans hd
  | step c e hnext ih =>
    rw [trail_of_some hnext]
    rcases hle with hle | hlt
    · exact ⟨c, List.mem_cons_self, hle⟩
    · obtain ⟨d, hd, hle⟩ := h.exists_next? ha hadmits hlt
      obtain rfl : e = d := Option.some.inj (hnext.symm.trans hd)
      obtain ⟨x, hx, hxa⟩ := ih (h.next hnext).1 hle
      exact ⟨x, List.mem_cons_of_mem c hx, hxa⟩

/-- The stops are at the wanted nodes of a tree, at each once and in pre-order. -/
structure IsTour (root : Node) (wanted : Address → Node → Prop) (stops : List Cursor) : Prop where
  at_node : ∀ c ∈ stops, root.at? c.address = some c.node
  mem_iff : ∀ a, a ∈ stops.map address ↔ ∃ n, root.at? a = some n ∧ wanted a n
  once : (stops.map address).Nodup
  ordered : ∀ a ∈ stops.map address, ∀ b ∈ stops.map address, Precedes a b →
    [a, b].Sublist (stops.map address)

theorem IsTour.congr {wanted wanted' : Address → Node → Prop} {stops : List Cursor}
    (h : IsTour root wanted stops) (hwanted : ∀ a n, wanted a n ↔ wanted' a n) :
    IsTour root wanted' stops := by
  refine ⟨h.at_node, fun a => ?_, h.once, h.ordered⟩
  simp only [h.mem_iff a, hwanted]

/-- The stops of a walk whose nodes `p` accepts are at the admitted nodes that `p` accepts. -/
theorem isTour_trail (enter : Node → Bool) (root : Node) (p : Node → Bool) :
    IsTour root (fun a n => p n = true ∧ Admits enter root a)
      (((ofRoot root).trail enter).filter fun c => p c.node) := by
  have hroot : Stands enter root (ofRoot root) := .root
  have hstands : ∀ c ∈ ((ofRoot root).trail enter).filter fun c => p c.node,
      Stands enter root c ∧ p c.node = true := by
    intro c hc
    obtain ⟨hmem, hp⟩ := List.mem_filter.1 hc
    exact ⟨(stands_of_mem_trail hroot c hmem).1, hp⟩
  have hpairwise : ((((ofRoot root).trail enter).filter fun c => p c.node).map
      address).Pairwise Precedes :=
    List.pairwise_map.2 ((pairwise_trail hroot).filter _)
  refine ⟨fun c hc => (hstands c hc).1.at?_address, fun a => ⟨fun ha => ?_, ?_⟩,
    hpairwise.imp Precedes.ne, fun a ha b hb => sublist_of_precedes hpairwise ha hb⟩
  · obtain ⟨c, hc, rfl⟩ := List.mem_map.1 ha
    obtain ⟨hc, hp⟩ := hstands c hc
    exact ⟨c.node, hc.at?_address, hp, hc.admits⟩
  · rintro ⟨n, hn, hp, hadmits⟩
    have hle : (ofRoot root).address = a ∨ Precedes (ofRoot root).address a := by
      cases a with
      | nil => exact .inl rfl
      | cons i a => exact .inr (.inl ⟨i, a, rfl⟩)
    obtain ⟨c, hc, rfl⟩ := mem_trail_of_admits hroot hn hadmits hle
    have hnode := (stands_of_mem_trail hroot c hc).1.at?_address
    obtain rfl : n = c.node := Option.some.inj (hn.symm.trans hnode)
    exact List.mem_map_of_mem (List.mem_filter.2 ⟨hc, hp⟩)

theorem map_node_filter_trail (enter p : Node → Bool) (c : Cursor) :
    ((c.trail enter).filter fun c => p c.node).map (·.node) = (c.walk enter).filter p := by
  rw [← map_node_trail, List.filter_map]
  rfl

end Cursor

end MessageCatalog.Go

namespace MessageCatalog

open Go Go.Address Go.Cursor

/-- A search with requested locations visits the calls of the tree, one after the other. -/
theorem matchCalls_of_not_isEmpty (disk : Disk) (a : Associator) (f : SourceFile)
    {i : PositionIndex} (h : i.isEmpty = false) (r : Reporter) :
    matchCalls disk a f i r = (do
      let m ← f.tree.calls.foldlM (Matching.visit disk a (f.comments a) f) ⟨i, [], r⟩
      return (m.finish f.path, m.reporter)) := by
  unfold matchCalls
  rw [h]
  rfl

/-- Walks through a tree visit every node once.  The walk for calls ends and stops at each node of
the tree, in pre-order; so a search visits each call expression once, an enclosing call before the
calls below it.  The walk for comments ends, and it finds the comments that are below no comment,
in pre-order. -/
theorem walks_stop_at_each_node_once (root : Node) :
    (∃ stops, Walks (fun _ => true) (ofRoot root) stops ∧
      stops.map (·.node) = root.preorder ∧ IsTour root (fun _ _ => True) stops ∧
      IsTour root (fun _ n => n.kind = .callExpression)
        (stops.filter (·.node.kind = .callExpression)) ∧
      ∀ (disk : Disk) (a : Associator) (f : SourceFile) (i : PositionIndex) (r : Reporter),
        f.tree = root → i.isEmpty = false → matchCalls disk a f i r = (do
          let m ← ((stops.filter (·.node.kind = .callExpression)).map (·.node)).foldlM
            (Matching.visit disk a (f.comments a) f) ⟨i, [], r⟩
          return (m.finish f.path, m.reporter))) ∧
    ∃ stops, Walks (·.kind ≠ .comment) (ofRoot root) stops ∧
      (stops.filter (·.node.kind = .comment)).map (·.node) = root.comments ∧
      IsTour root
        (fun a n => n.kind = .comment ∧
          ∀ b m, IsAbove b a → root.at? b = some m → m.kind ≠ .comment)
        (stops.filter (·.node.kind = .comment)) := by
  refine ⟨⟨(ofRoot root).trail fun _ => true, walks_trail _ _, ?_, ?_, ?_, ?_⟩,
    (ofRoot root).trail (·.kind ≠ .comment), walks_trail _ _, ?_, ?_⟩
  · rw [map_node_trail, walk_ofRoot, Node.visited_always]
  · have htour := isTour_trail (fun _ => true) root fun _ => true
    rw [List.filter_true] at htour
    exact htour.congr fun a n => by simp [Admits]
  · have htour := isTour_trail (fun _ => true) root (·.kind = .callExpression)
    exact htour.congr fun a n => by simp [Admits]
  · rintro disk a f i r rfl hi
    rw [matchCalls_of_not_isEmpty disk a f hi, Node.calls, ← map_node_filter_trail]
  · rw [Node.comments, ← map_node_filter_trail]
  · have htour := isTour_trail (·.kind ≠ .comment) root (·.kind = .comment)
    exact htour.congr fun a n => by simp [Admits]

/-- A file with a call in the argument list of another, and a comment with a comment below it. -/
def nestedFile : SourceFile where
  path := "a.go"
  source := ""
  tree := .mk .sourceFile none default default
    [.mk .callExpression none default default
      [.mk .argumentList (some .arguments) default default
        [.mk .callExpression none default default []]],
      .mk .comment none default default [.mk .comment none default default []]]

/-- The state of a search for one location before it starts. -/
def nestedStart : Matching :=
  ⟨.ofList [⟨1, 2⟩], [], .new .unlimited (.new false) fun _ => 1⟩

/-- The outer call is visited before the inner one, and only the outer comment is found. -/
theorem nested_calls_are_visited_once : ∃ stops others,
    Walks (fun _ => true) (ofRoot nestedFile.tree) stops ∧
    [[0], [0, 0, 0]].Sublist
      ((stops.filter (·.node.kind = .callExpression)).map Cursor.address) ∧
    matchCalls (fun _ => .ok "") default nestedFile nestedStart.index nestedStart.reporter = (do
      let m ← ((stops.filter (·.node.kind = .callExpression)).map (·.node)).foldlM
        (Matching.visit (fun _ => .ok "") default (nestedFile.comments default) nestedFile)
        nestedStart
      return (m.finish "a.go", m.reporter)) ∧
    Walks (·.kind ≠ .comment) (ofRoot nestedFile.tree) others ∧
    [1] ∈ (others.filter (·.node.kind = .comment)).map Cursor.address ∧
    [1, 0] ∉ (others.filter (·.node.kind = .comment)).map Cursor.address := by
  obtain ⟨⟨stops, hwalks, _, _, hcalls, hsearch⟩, others, hwalks', _, hcomments⟩ :=
    walks_stop_at_each_node_once nestedFile.tree
  have houter : [0] ∈ (stops.filter (·.node.kind = .callExpression)).map Cursor.address :=
    (hcalls.mem_iff _).2 ⟨_, rfl, rfl⟩
  have hinner : [0, 0, 0] ∈ (stops.filter (·.node.kind = .callExpression)).map Cursor.address :=
    (hcalls.mem_iff _).2 ⟨_, rfl, rfl⟩
  refine ⟨stops, others, hwalks, hcalls.ordered _ houter _ hinner (.inl ⟨0, [0], rfl⟩),
    hsearch _ _ _ _ _ rfl (by decide), hwalks', (hcomments.mem_iff _).2 ⟨_, rfl, rfl, ?_⟩, ?_⟩
  · intro b m (hb : IsAbove b ([] ++ [1])) hm
    rcases isAbove_concat_iff.1 hb with rfl | hb
    · cases hm
      decide
    · exact absurd hb (not_isAbove_nil b)
  · intro h
    obtain ⟨n, _, _, hclear⟩ := (hcomments.mem_iff _).1 h
    exact hclear [1] _ ⟨0, [], rfl⟩ rfl rfl

end MessageCatalog
