import MessageCatalog.Go.Cursor

/-! # A walk is a pre-order

`Node.visited enter` lists, by recursion on the tree, the nodes that a walk is to visit: a node
before its children, and these only if `enter` accepts the node.  `walk_eq_visited` says that the
cursor, which goes down, sideways and up, visits exactly this list; what is still ahead of it is
`Cursor.rest`.  Hence `calls` lists the call expressions in pre-order (`calls_eq_preorder`). -/

namespace MessageCatalog.Go

namespace Node

mutual

/-- The nodes of a tree in pre-order, without those below a node that is not entered. -/
def visited (enter : Node → Bool) : Node → List Node
  | mk k r s t cs => mk k r s t cs :: if enter (mk k r s t cs) then visitedAll enter cs else []

/-- The nodes of several trees in pre-order, without those below a node that is not entered. -/
def visitedAll (enter : Node → Bool) : List Node → List Node
  | [] => []
  | n :: ns => n.visited enter ++ visitedAll enter ns

end

mutual

theorem visited_always : ∀ (n : Node), n.visited (fun _ => true) = n.preorder
  | mk k r s t cs => by
      rw [visited, preorder, if_pos rfl, visitedAll_always cs]

theorem visitedAll_always : ∀ (ns : List Node), visitedAll (fun _ => true) ns = preorders ns
  | [] => rfl
  | n :: ns => by
      rw [visitedAll, preorders, visited_always n, visitedAll_always ns]

end

theorem visited_of_entered {enter : Node → Bool} : ∀ {n : Node}, enter n = true →
    n.visited enter = n :: visitedAll enter n.children
  | mk k r s t cs, h => by rw [visited, if_pos h, children]

theorem visited_of_not_entered {enter : Node → Bool} : ∀ {n : Node}, enter n = false →
    n.visited enter = [n]
  | mk k r s t cs, h => by rw [visited, h]; rfl

end Node

namespace Cursor

/-- The nodes that a walk visits after the tree under the cursor. -/
def rest (enter : Node → Bool) (c : Cursor) : List Node :=
  Node.visitedAll enter c.later ++ (c.above.map fun a => Node.visitedAll enter a.2).flatten

/-- Where a walk goes on after the tree under the cursor, and what it visits there. -/
theorem rest_eq_advance (enter : Node → Bool) (c : Cursor) :
    c.rest enter = match c.advance? with
      | some d => d.node.visited enter ++ d.rest enter
      | none => [] := by
  fun_induction advance? c with
  | case1 c d hd =>
    obtain ⟨node, later, above⟩ := c
    cases later with
    | nil => simp [nextSibling?] at hd
    | cons n ns =>
      simp only [nextSibling?, Option.some.injEq] at hd
      subst hd
      simp only [rest, Node.visitedAll, List.append_assoc]
  | case2 c hs p hp ih =>
    rw [← ih]
    obtain ⟨node, later, above⟩ := c
    cases later with
    | cons n ns => simp [nextSibling?] at hs
    | nil => cases above with
      | nil => simp [parent?] at hp
      | cons a above =>
        simp only [parent?, Option.some.injEq] at hp
        subst hp
        simp only [rest, Node.visitedAll, List.map_cons, List.flatten_cons, List.nil_append]
  | case3 c hs hp =>
    obtain ⟨node, later, above⟩ := c
    cases later with
    | cons n ns => simp [nextSibling?] at hs
    | nil => cases above with
      | cons a above => simp [parent?] at hp
      | nil => simp [rest, Node.visitedAll]

theorem children_of_firstChild? {c : Cursor} (h : c.firstChild? = none) :
    c.node.children = [] := by
  unfold firstChild? at h
  split at h
  · assumption
  · cases h

theorem rest_eq_firstChild (enter : Node → Bool) {c d : Cursor} (h : c.firstChild? = some d) :
    Node.visitedAll enter c.node.children ++ c.rest enter =
      d.node.visited enter ++ d.rest enter := by
  obtain ⟨⟨k, r, s, t, cs⟩, later, above⟩ := c
  cases cs with
  | nil => simp [firstChild?, Node.children] at h
  | cons n ns =>
    simp only [firstChild?, Node.children, Option.some.injEq] at h
    subst h
    simp only [rest, Node.children, Node.visitedAll, List.map_cons, List.flatten_cons,
      List.append_assoc]

/-- What is ahead of a cursor is what is ahead of the next one, after the node itself. -/
theorem visited_append_rest (enter : Node → Bool) (c : Cursor) :
    c.node.visited enter ++ c.rest enter = c.node :: match c.next? enter with
      | some d => d.node.visited enter ++ d.rest enter
      | none => [] := by
  unfold next?
  cases he : enter c.node with
  | false =>
    rw [Node.visited_of_not_entered he, List.singleton_append, rest_eq_advance]
  | true =>
    rw [Node.visited_of_entered he, List.cons_append]
    cases hf : c.firstChild? with
    | some d => rw [rest_eq_firstChild enter hf]
    | none =>
      rw [children_of_firstChild? hf, Node.visitedAll, List.nil_append, rest_eq_advance]

/-! ### A walk round by round -/

theorem walk_of_some {enter : Node → Bool} {c d : Cursor} (h : c.next? enter = some d) :
    c.walk enter = c.node :: d.walk enter := by
  rw [walk]
  split
  · next d' h' => rw [Option.some.inj (h.symm.trans h')]
  · next h' => cases h.symm.trans h'

theorem walk_of_none {enter : Node → Bool} {c : Cursor} (h : c.next? enter = none) :
    c.walk enter = [c.node] := by
  rw [walk]
  split
  · next d' h' => cases h.symm.trans h'
  · rfl

/-- What holds of the last cursor of a walk, and of a cursor if it holds of the next one, holds of
every cursor, since a walk ends. -/
theorem walk_induction (enter : Node → Bool) {motive : Cursor → Prop}
    (last : ∀ c, c.next? enter = none → motive c)
    (step : ∀ c d, c.next? enter = some d → motive d → motive c) (c : Cursor) : motive c := by
  fun_induction walk enter c with
  | case1 c ih => cases h : c.next? enter with
    | none => exact last c h
    | some d => exact step c d h (ih d h)

/-- A walk visits the tree under the cursor and then the rest. -/
theorem walk_eq_visited (enter : Node → Bool) (c : Cursor) :
    c.walk enter = c.node.visited enter ++ c.rest enter := by
  induction c using walk_induction enter with
  | last c h => rw [walk_of_none h, visited_append_rest, h]
  | step c d h ih => rw [walk_of_some h, visited_append_rest, h, ih]

theorem walk_ofRoot (enter : Node → Bool) (root : Node) :
    (ofRoot root).walk enter = root.visited enter := by
  rw [walk_eq_visited]
  simp [ofRoot, rest, Node.visitedAll]

end Cursor

/-- The calls of a tree are its call expressions in pre-order. -/
theorem Node.calls_eq_preorder (root : Node) :
    root.calls = root.preorder.filter (·.kind = .callExpression) := by
  rw [calls, Cursor.walk_ofRoot, visited_always]

end MessageCatalog.Go
