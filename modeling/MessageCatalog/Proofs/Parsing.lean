/-! # Parsing the members of a list

Paths, positions and texts of call sites are all parsed one after the other, up to the first that
fails.  `mapM_eq_ok_iff` says when that succeeds and what it gives; the order of the members then
only decides the order of the results (`mapM_perm`). -/

namespace MessageCatalog

variable {ε ε' α β : Type}

theorem bind_eq_ok {x : Except ε α} {f : α → Except ε β} {b : β} (h : x >>= f = .ok b) :
    ∃ a, x = .ok a ∧ f a = .ok b := by
  cases x with
  | error e => cases h
  | ok a => exact ⟨a, rfl, h⟩

theorem eq_ok_of_mapError {x : Except ε α} {f : ε → ε'} {a : α} (h : x.mapError f = .ok a) :
    x = .ok a := by
  cases x with
  | error e => cases h
  | ok b => cases h; rfl

variable {parse : α → Except ε β}

theorem mapM_of_parsed : ∀ {xs : List α}, (∀ x ∈ xs, ∃ y, parse x = .ok y) →
    xs.mapM parse = .ok (xs.filterMap fun x => (parse x).toOption)
  | [], _ => rfl
  | x :: xs, h => by
      obtain ⟨y, hy⟩ := h x List.mem_cons_self
      have hxs := mapM_of_parsed fun z hz => h z (List.mem_cons_of_mem _ hz)
      rw [List.mapM_cons, hy, hxs, List.filterMap_cons, hy]
      rfl

theorem mapM_cons_eq_ok {x : α} {xs : List α} {ys : List β} (h : (x :: xs).mapM parse = .ok ys) :
    ∃ y zs, parse x = .ok y ∧ xs.mapM parse = .ok zs ∧ ys = y :: zs := by
  rw [List.mapM_cons] at h
  obtain ⟨y, hy, h⟩ := bind_eq_ok h
  obtain ⟨zs, hzs, h⟩ := bind_eq_ok h
  cases h
  exact ⟨y, zs, hy, hzs, rfl⟩

theorem parsed_of_mapM : ∀ {xs : List α} {ys : List β},
    xs.mapM parse = .ok ys → ∀ x ∈ xs, ∃ y, parse x = .ok y
  | [], _, _ => by simp
  | x :: xs, ys, h => by
      obtain ⟨y, zs, hy, hzs, rfl⟩ := mapM_cons_eq_ok h
      exact List.forall_mem_cons.2 ⟨⟨y, hy⟩, parsed_of_mapM hzs⟩

/-- Parsing succeeds on a list if it does on each member, and then gives what was parsed. -/
theorem mapM_eq_ok_iff {xs : List α} {ys : List β} :
    xs.mapM parse = .ok ys ↔
      (∀ x ∈ xs, ∃ y, parse x = .ok y) ∧ ys = xs.filterMap fun x => (parse x).toOption := by
  constructor
  · intro h
    have hall := parsed_of_mapM h
    rw [mapM_of_parsed hall, Except.ok.injEq] at h
    exact ⟨hall, h.symm⟩
  · rintro ⟨hall, rfl⟩
    exact mapM_of_parsed hall

theorem mem_iff_of_mapM {xs : List α} {ys : List β} (h : xs.mapM parse = .ok ys) (y : β) :
    y ∈ ys ↔ ∃ x ∈ xs, parse x = .ok y := by
  have hsome : ∀ x, (parse x).toOption = some y ↔ parse x = .ok y := by
    intro x
    cases parse x <;> simp [Except.toOption]
  obtain ⟨_, rfl⟩ := mapM_eq_ok_iff.1 h
  simp only [List.mem_filterMap, hsome]

theorem length_of_mapM : ∀ {xs : List α} {ys : List β},
    xs.mapM parse = .ok ys → ys.length = xs.length
  | [], _, h => by
      cases h
      rfl
  | x :: xs, _, h => by
      obtain ⟨y, zs, _, hzs, rfl⟩ := mapM_cons_eq_ok h
      rw [List.length_cons, List.length_cons, length_of_mapM hzs]

/-- The members that `p` keeps parse to the results that `q` keeps, if `q` says of each result
what `p` says of its member. -/
theorem mapM_filter {p : α → Bool} {q : β → Bool} (hpq : ∀ x y, parse x = .ok y → p x = q y) :
    ∀ {xs : List α} {ys : List β}, xs.mapM parse = .ok ys →
      (xs.filter p).mapM parse = .ok (ys.filter q)
  | [], _, h => by
      cases h
      rfl
  | x :: xs, _, h => by
      obtain ⟨y, zs, hy, hzs, rfl⟩ := mapM_cons_eq_ok h
      have ih := mapM_filter hpq hzs
      rw [List.filter_cons, List.filter_cons, hpq x y hy]
      split
      · rw [List.mapM_cons, hy, ih]
        rfl
      · exact ih

/-- In another order the same members parse, and the results are in another order. -/
theorem mapM_perm {xs xs' : List α} {ys : List β} (hperm : xs.Perm xs')
    (h : xs.mapM parse = .ok ys) : ∃ ys', xs'.mapM parse = .ok ys' ∧ ys.Perm ys' := by
  obtain ⟨hall, rfl⟩ := mapM_eq_ok_iff.1 h
  exact ⟨_, mapM_of_parsed fun x hx => hall x (hperm.mem_iff.2 hx), hperm.filterMap _⟩

end MessageCatalog
