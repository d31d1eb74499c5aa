import MessageCatalog.Order

/-! # Laws of sorted maps

A sorted map is its list of entries, read through `get?`.  `get?_eq_some_iff` says that reading
a key finds the entry that is listed for it; each operation then has one equation through `get?`,
and `ext_get?` says that maps which read alike are equal.  A key above all others is added at
the end of the list (`alterEntries_of_above`). -/

namespace MessageCatalog.SortedMap

variable {κ α β : Type} [Ord κ]

/-! ### Reading -/

@[simp] theorem get?_empty (k : κ) : (∅ : SortedMap κ α).get? k = none := rfl

theorem keys_ascending (m : SortedMap κ α) : m.keys.Pairwise fun a b => compare a b = .lt :=
  List.Pairwise.map _ (fun _ _ h => h) m.ascending

/-- Listing the entries of the maps that a map holds gives as many as these have in total. -/
theorem length_flatMap_entries {ι : Type} [Ord ι] (m : SortedMap κ (SortedMap ι α))
    (f : κ → ι × α → β) :
    (m.entries.flatMap fun e => e.2.entries.map (f e.1)).length = m.total := by
  unfold total values
  induction m.entries with
  | nil => rfl
  | cons e es ih =>
    rw [List.flatMap_cons, List.length_append, List.length_map, ih]
    rfl

section lawful

variable [Std.LawfulEqOrd κ]

theorem ne_of_compare_lt {j k : κ} (h : compare j k = .lt) : j ≠ k := by
  intro e
  rw [e, Std.ReflOrd.compare_self] at h
  exact absurd h (by decide)

theorem keys_nodup (m : SortedMap κ α) : m.keys.Nodup :=
  m.keys_ascending.imp ne_of_compare_lt

theorem find_cons_self (k : κ) (a : α) (l : List (κ × α)) : find k ((k, a) :: l) = some a := by
  rw [find, Std.ReflOrd.compare_self]

theorem find_cons_of_ne {j k : κ} (h : k ≠ j) (a : α) (l : List (κ × α)) :
    find k ((j, a) :: l) = find k l := by
  have hc : compare k j ≠ .eq := fun e => h (Std.LawfulEqOrd.eq_of_compare e)
  rw [find]
  split
  · contradiction
  · rfl

theorem mem_of_find {k : κ} {a : α} : ∀ {l : List (κ × α)}, find k l = some a → (k, a) ∈ l
  | [], h => by simp [find] at h
  | (j, b) :: l, h => by
      by_cases hk : k = j
      · subst hk
        rw [find_cons_self, Option.some.injEq] at h
        rw [h]
        exact List.mem_cons_self
      · rw [find_cons_of_ne hk] at h
        exact List.mem_cons_of_mem _ (mem_of_find h)

theorem find_of_mem {k : κ} {a : α} : ∀ {l : List (κ × α)},
    (l.Pairwise fun a b => compare a.1 b.1 = .lt) → (k, a) ∈ l → find k l = some a
  | (j, b) :: l, hl, h => by
      rcases List.mem_cons.1 h with e | h
      · cases e
        exact find_cons_self k a l
      · have hjk : j ≠ k := ne_of_compare_lt (List.rel_of_pairwise_cons hl h)
        rw [find_cons_of_ne hjk.symm]
        exact find_of_mem hl.of_cons h

/-- Reading a key finds the value that is listed for it. -/
theorem get?_eq_some_iff {m : SortedMap κ α} {k : κ} {a : α} :
    m.get? k = some a ↔ (k, a) ∈ m.entries :=
  ⟨mem_of_find, find_of_mem m.ascending⟩

theorem mem_keys_iff {m : SortedMap κ α} {k : κ} : k ∈ m.keys ↔ (m.get? k).isSome := by
  rw [Option.isSome_iff_exists]
  constructor
  · intro h
    obtain ⟨⟨j, a⟩, he, rfl⟩ := List.mem_map.1 h
    exact ⟨a, get?_eq_some_iff.2 he⟩
  · rintro ⟨a, ha⟩
    exact List.mem_map.2 ⟨(k, a), get?_eq_some_iff.1 ha, rfl⟩

/-! ### Changing values -/

theorem get?_mapValues (m : SortedMap κ α) (f : κ → α → β) (k : κ) :
    (m.mapValues f).get? k = (m.get? k).map (f k) := by
  ext b
  rw [get?_eq_some_iff, Option.map_eq_some_iff]
  simp only [mapValues, List.mem_map, Prod.mk.injEq, Prod.exists, get?_eq_some_iff]
  constructor
  · rintro ⟨j, a, h, rfl, rfl⟩
    exact ⟨a, h, rfl⟩
  · rintro ⟨a, h, rfl⟩
    exact ⟨k, a, h, rfl, rfl⟩

theorem get?_modify [DecidableEq κ] (m : SortedMap κ α) (k : κ) (f : α → α) (j : κ) :
    (m.modify k f).get? j = if j = k then (m.get? j).map f else m.get? j := by
  rw [modify, get?_mapValues]
  by_cases h : j = k
  · subst h
    simp only [Std.ReflOrd.compare_self, ↓reduceIte]
  · have hc : compare k j ≠ .eq := fun e => h (Std.LawfulEqOrd.eq_of_compare e).symm
    simp only [hc, h, ↓reduceIte, Option.map_id']

/-! ### Changing one entry -/

theorem find_alterEntries_of_ne {j k : κ} (h : j ≠ k) (f : Option α → α) :
    ∀ (l : List (κ × α)), find j (alterEntries k f l) = find j l
  | [] => by rw [alterEntries, find_cons_of_ne h]
  | (i, a) :: l => by
      rw [alterEntries]
      split
      case h_1 => rw [find_cons_of_ne h]
      case h_2 hk =>
        obtain rfl := Std.LawfulEqOrd.eq_of_compare hk
        rw [find_cons_of_ne h, find_cons_of_ne h]
      case h_3 =>
        by_cases hi : j = i
        · subst hi
          rw [find_cons_self, find_cons_self]
        · rw [find_cons_of_ne hi, find_cons_of_ne hi, find_alterEntries_of_ne h f l]

variable [Std.TransOrd κ]

theorem find_alterEntries_self (k : κ) (f : Option α → α) : ∀ {l : List (κ × α)},
    (l.Pairwise fun a b => compare a.1 b.1 = .lt) →
      find k (alterEntries k f l) = some (f (find k l))
  | [], _ => by rw [alterEntries, find_cons_self]; rfl
  | (j, a) :: l, hl => by
      rw [alterEntries]
      split
      case h_1 hk =>
        -- `k` is below the whole list, so it is not in it
        have hnone : find k ((j, a) :: l) = none := by
          rw [Option.eq_none_iff_forall_ne_some]
          intro b hb
          have hlk : ∀ e ∈ (j, a) :: l, compare k e.1 = .lt := by
            intro e he
            rcases List.mem_cons.1 he with rfl | he
            · exact hk
            · exact Std.TransCmp.lt_trans hk (List.rel_of_pairwise_cons hl he)
          exact ne_of_compare_lt (hlk _ (mem_of_find hb)) rfl
        rw [find_cons_self, hnone]
      case h_2 hk =>
        obtain rfl := Std.LawfulEqOrd.eq_of_compare hk
        rw [find_cons_self, find_cons_self]
      case h_3 hk =>
        have hkj : k ≠ j := (ne_of_compare_lt (Std.OrientedCmp.gt_iff_lt.1 hk)).symm
        rw [find_cons_of_ne hkj, find_cons_of_ne hkj, find_alterEntries_self k f hl.of_cons]

theorem get?_alter [DecidableEq κ] (m : SortedMap κ α) (k : κ) (f : Option α → α) (j : κ) :
    (m.alter k f).get? j = if j = k then some (f (m.get? k)) else m.get? j := by
  by_cases h : j = k
  · subst h
    rw [if_pos rfl]
    exact find_alterEntries_self j f m.ascending
  · rw [if_neg h]
    exact find_alterEntries_of_ne h f m.entries

theorem get?_insert [DecidableEq κ] (m : SortedMap κ α) (k : κ) (a : α) (j : κ) :
    (m.insert k a).get? j = if j = k then some a else m.get? j :=
  m.get?_alter k _ j

theorem get?_insertNew [DecidableEq κ] (m : SortedMap κ α) (k : κ) (a : α) (j : κ) :
    (m.insertNew k a).get? j = if j = k then some ((m.get? k).getD a) else m.get? j :=
  m.get?_alter k _ j

omit [Std.LawfulEqOrd κ] in
/-- A key above all others is added at the end. -/
theorem alterEntries_of_above {k : κ} (f : Option α → α) : ∀ {l : List (κ × α)},
    (∀ e ∈ l, compare e.1 k = .lt) → alterEntries k f l = l ++ [(k, f none)]
  | [], _ => rfl
  | (j, a) :: l, h => by
      have hj : compare k j = .gt := Std.OrientedCmp.gt_iff_lt.2 (h _ List.mem_cons_self)
      rw [alterEntries, hj]
      simp only [List.cons_append]
      rw [alterEntries_of_above f fun e he => h e (List.mem_cons_of_mem _ he)]

/-! ### Equal maps -/

/-- Lists that ascend by a key are equal if they have the same members. -/
theorem eq_of_ascending {γ : Type} (key : γ → κ) {l m : List γ}
    (hl : l.Pairwise fun a b => compare (key a) (key b) = .lt)
    (hm : m.Pairwise fun a b => compare (key a) (key b) = .lt) (h : ∀ e, e ∈ l ↔ e ∈ m) :
    l = m := by
  have hn : ∀ {l : List γ}, (l.Pairwise fun a b => compare (key a) (key b) = .lt) → l.Nodup :=
    fun hl => hl.imp fun h e => ne_of_compare_lt h (congrArg key e)
  have hp : l.Perm m := (List.perm_ext_iff_of_nodup (hn hl) (hn hm)).2 h
  refine hp.eq_of_pairwise (fun a b _ _ hab hba => ?_) hl hm
  exact absurd (Std.TransCmp.lt_trans hab hba) (fun h => ne_of_compare_lt h rfl)

/-- Maps that read alike are equal. -/
theorem ext_get? {m n : SortedMap κ α} (h : ∀ k, m.get? k = n.get? k) : m = n := by
  refine SortedMap.ext (eq_of_ascending Prod.fst m.ascending n.ascending ?_)
  rintro ⟨k, a⟩
  rw [← get?_eq_some_iff, ← get?_eq_some_iff, h]

/-- Sets with the same members are equal. -/
theorem ext_keys {m n : SortedSet κ} (h : m.keys = n.keys) : m = n := by
  refine ext_get? fun k => ?_
  have hsome : (m.get? k).isSome ↔ (n.get? k).isSome := by
    rw [← mem_keys_iff, ← mem_keys_iff, h]
  cases hm : m.get? k <;> cases hn : n.get? k <;> simp [hm, hn] at hsome ⊢

end lawful

end MessageCatalog.SortedMap
