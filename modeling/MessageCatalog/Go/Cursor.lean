import MessageCatalog.Go.Node

/-! # Walking a tree

A cursor stands on a node and knows the way back up.  `Cursor.walk` visits a tree without
recursion on it: from each node it goes to the first child, else to the next sibling, else up
until there is one.  The walk need not enter every node.  It ends because every step leaves
less of the tree ahead (`remaining_next?_lt`).
-/

namespace MessageCatalog.Go

/-- A node, its siblings to the right, and its ancestors with theirs, innermost first. -/
structure Cursor where
  node : Node
  later : List Node
  above : List (Node × List Node)

namespace Cursor

/-- A cursor on the root of a tree. -/
def ofRoot (root : Node) : Cursor := ⟨root, [], []⟩

/-- Go to the first child. -/
def firstChild? (c : Cursor) : Option Cursor :=
  match c.node.children with
  | [] => none
  | n :: ns => some ⟨n, ns, (c.node, c.later) :: c.above⟩

/-- Go to the next sibling. -/
def nextSibling? (c : Cursor) : Option Cursor :=
  match c.later with
  | [] => none
  | n :: ns => some ⟨n, ns, c.above⟩

/-- Go to the parent. -/
def parent? (c : Cursor) : Option Cursor :=
  match c.above with
  | [] => none
  | (n, later) :: above => some ⟨n, later, above⟩

theorem length_above_parent? {c p : Cursor} (h : c.parent? = some p) :
    p.above.length < c.above.length := by
  obtain ⟨node, later, above⟩ := c
  cases above with
  | nil => simp [parent?] at h
  | cons a above =>
    obtain ⟨n, l⟩ := a
    simp only [parent?, Option.some.injEq] at h
    subst h
    simp

/-- Go to the next sibling of the node, or of its nearest ancestor that has one. -/
def advance? (c : Cursor) : Option Cursor :=
  match c.nextSibling? with
  | some d => some d
  | none => match _h : c.parent? with
    | some p => p.advance?
    | none => none
termination_by c.above.length
decreasing_by exact length_above_parent? _h

/-- The next node of a walk that goes below the nodes that `enter` accepts. -/
def next? (enter : Node → Bool) (c : Cursor) : Option Cursor :=
  match enter c.node, c.firstChild? with
  | true, some d => some d
  | _, _ => c.advance?

/-! ### The walk ends -/

/-- The number of nodes after the tree under the cursor. -/
def ahead (c : Cursor) : Nat :=
  Node.sizes c.later + c.above.foldr (fun a n => Node.sizes a.2 + n) 0

/-- The number of nodes from the cursor on, the tree under it included. -/
def remaining (c : Cursor) : Nat := c.node.size + c.ahead

theorem size_pos (n : Node) : 0 < n.size := by
  cases n
  simp only [Node.size]
  omega

theorem remaining_advance? {c d : Cursor} (h : c.advance? = some d) : d.remaining = c.ahead := by
  fun_induction advance? c with
  | case1 c d' hd =>
    obtain rfl : d' = d := by simpa using h
    obtain ⟨node, later, above⟩ := c
    cases later with
    | nil => simp [nextSibling?] at hd
    | cons n ns =>
      simp only [nextSibling?, Option.some.injEq] at hd
      subst hd
      simp only [remaining, ahead, Node.sizes]
      omega
  | case2 c hs p hp ih =>
    rw [ih h]
    obtain ⟨node, later, above⟩ := c
    cases later with
    | cons n ns => simp [nextSibling?] at hs
    | nil => cases above with
      | nil => simp [parent?] at hp
      | cons a above =>
        simp only [parent?, Option.some.injEq] at hp
        subst hp
        simp [ahead, Node.sizes]
  | case3 => simp at h

theorem remaining_firstChild? {c d : Cursor} (h : c.firstChild? = some d) :
    d.remaining + 1 = c.remaining := by
  obtain ⟨⟨k, r, s, t, cs⟩, later, above⟩ := c
  cases cs with
  | nil => simp [firstChild?, Node.children] at h
  | cons n ns =>
    simp only [firstChild?, Node.children, Option.some.injEq] at h
    subst h
    simp only [remaining, ahead, Node.size, Node.sizes, List.foldr_cons]
    omega

theorem remaining_next?_lt {enter : Node → Bool} {c d : Cursor} (h : c.next? enter = some d) :
    d.remaining < c.remaining := by
  rw [next?] at h
  split at h
  · rename_i d' _ hd
    obtain rfl : d' = d := by simpa using h
    have := remaining_firstChild? hd
    omega
  · have := remaining_advance? h
    have := size_pos c.node
    simp only [remaining] at *
    omega

/-- The nodes that a walk visits, from the cursor on. -/
def walk (enter : Node → Bool) (c : Cursor) : List Node :=
  c.node :: match _h : c.next? enter with
    | some d => d.walk enter
    | none => []
termination_by c.remaining
decreasing_by exact remaining_next?_lt _h

end Cursor

namespace Node

/-- The call expressions of a tree, an enclosing call before the calls inside it. -/
def calls (root : Node) : List Node :=
  ((Cursor.ofRoot root).walk fun _ => true).filter (·.kind = .callExpression)

/-- The comments of a tree that are not inside another comment, in the order of the text. -/
def comments (root : Node) : List Node :=
  ((Cursor.ofRoot root).walk (·.kind ≠ .comment)).filter (·.kind = .comment)

end Node

end MessageCatalog.Go
