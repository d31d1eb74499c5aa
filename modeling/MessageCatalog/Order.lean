/-! # Maps in ascending key order

`SortedMap κ α` is a finite map kept as the list of its entries in strictly ascending key
order, so that two maps with the same entries are equal and listing a map needs no sorting.

* `alter` replaces, adds or keeps the value at one key; `insert` and `insertNew` are its two
  uses: the last value wins, or the first.
* `modify` changes a value that is there, `mapValues` changes them all.
-/

namespace MessageCatalog

/-- A finite map whose entries stand in strictly ascending key order. -/
structure SortedMap (κ : Type) (α : Type) [Ord κ] where
  /-- The entries, one per key. -/
  entries : List (κ × α)
  /-- The keys ascend. -/
  ascending : entries.Pairwise fun a b => compare a.1 b.1 = .lt

namespace SortedMap

variable {κ α β : Type} [Ord κ]

@[ext] theorem ext {m n : SortedMap κ α} (h : m.entries = n.entries) : m = n := by
  cases m; cases n; cases h; rfl

/-- The map without entries. -/
def empty : SortedMap κ α := ⟨[], .nil⟩

instance : EmptyCollection (SortedMap κ α) := ⟨empty⟩

instance : Inhabited (SortedMap κ α) := ⟨empty⟩

/-- The value in an entry list at a key. -/
def find (k : κ) : List (κ × α) → Option α
  | [] => none
  | (j, a) :: rest => match compare k j with
    | .eq => some a
    | _ => find k rest

/-- The value at a key. -/
def get? (m : SortedMap κ α) (k : κ) : Option α := find k m.entries

/-- The key has a value. -/
def contains (m : SortedMap κ α) (k : κ) : Bool := (m.get? k).isSome

/-- The keys, ascending. -/
def keys (m : SortedMap κ α) : List κ := m.entries.map Prod.fst

/-- The values in the order of their keys. -/
def values (m : SortedMap κ α) : List α := m.entries.map Prod.snd

/-- The number of entries. -/
def size (m : SortedMap κ α) : Nat := m.entries.length

/-- The number of entries of the maps that a map holds. -/
def total {ι : Type} [Ord ι] (m : SortedMap κ (SortedMap ι α)) : Nat :=
  m.values.foldr (fun inner n => inner.size + n) 0

/-- The map has no entry. -/
def isEmpty (m : SortedMap κ α) : Bool := m.entries.isEmpty

/-! ### Changing values -/

theorem ascending_map (f : κ × α → β) {l : List (κ × α)}
    (h : l.Pairwise fun a b => compare a.1 b.1 = .lt) :
    (l.map fun e => (e.1, f e)).Pairwise fun a b => compare a.1 b.1 = .lt :=
  List.Pairwise.map _ (fun _ _ h => h) h

/-- Change every value, knowing its key. -/
def mapValues (m : SortedMap κ α) (f : κ → α → β) : SortedMap κ β :=
  ⟨m.entries.map fun e => (e.1, f e.1 e.2), ascending_map (fun e => f e.1 e.2) m.ascending⟩

/-- Change the value at a key, if there is one. -/
def modify (m : SortedMap κ α) (k : κ) (f : α → α) : SortedMap κ α :=
  m.mapValues fun j a => if compare k j = .eq then f a else a

/-! ### Changing one entry -/

/-- Put `f` of the value at `k`, if any, at `k` in an ascending entry list. -/
def alterEntries (k : κ) (f : Option α → α) : List (κ × α) → List (κ × α)
  | [] => [(k, f none)]
  | (j, a) :: rest => match compare k j with
    | .lt => (k, f none) :: (j, a) :: rest
    | .eq => (j, f (some a)) :: rest
    | .gt => (j, a) :: alterEntries k f rest

theorem mem_alterEntries {k : κ} {f : Option α → α} {e : κ × α} {l : List (κ × α)}
    (h : e ∈ alterEntries k f l) : e.1 = k ∨ ∃ b, (e.1, b) ∈ l := by
  induction l with
  | nil => simp_all [alterEntries]
  | cons hd tl ih =>
    obtain ⟨j, a⟩ := hd
    rw [alterEntries] at h
    split at h
    · rcases List.mem_cons.1 h with rfl | h
      · exact .inl rfl
      · exact .inr ⟨e.2, h⟩
    · rcases List.mem_cons.1 h with rfl | h
      · exact .inr ⟨a, List.mem_cons_self⟩
      · exact .inr ⟨e.2, List.mem_cons_of_mem _ h⟩
    · rcases List.mem_cons.1 h with rfl | h
      · exact .inr ⟨a, List.mem_cons_self⟩
      · exact (ih h).imp_right fun ⟨b, hb⟩ => ⟨b, List.mem_cons_of_mem _ hb⟩

theorem ascending_alterEntries [Std.TransOrd κ] (k : κ) (f : Option α → α) {l : List (κ × α)}
    (h : l.Pairwise fun a b => compare a.1 b.1 = .lt) :
    (alterEntries k f l).Pairwise fun a b => compare a.1 b.1 = .lt := by
  induction l with
  | nil => simp [alterEntries]
  | cons hd tl ih =>
    obtain ⟨j, a⟩ := hd
    have hj : ∀ e ∈ tl, compare j e.1 = .lt := fun e he => List.rel_of_pairwise_cons h he
    rw [alterEntries]
    split
    case h_1 hk =>
      refine h.cons fun e he => ?_
      rcases List.mem_cons.1 he with rfl | he
      · exact hk
      · exact Std.TransCmp.lt_trans hk (hj e he)
    case h_2 => exact h.of_cons.cons fun e he => hj e he
    case h_3 hk =>
      refine (ih h.of_cons).cons fun e he => ?_
      rcases mem_alterEntries he with he | ⟨b, he⟩
      · rw [he]
        exact Std.OrientedCmp.gt_iff_lt.1 hk
      · exact hj (e.1, b) he

variable [Std.TransOrd κ]

/-- Put `f` of the value at `k`, if any, at `k`. -/
def alter (m : SortedMap κ α) (k : κ) (f : Option α → α) : SortedMap κ α :=
  ⟨alterEntries k f m.entries, ascending_alterEntries k f m.ascending⟩

/-- Put a value at a key, replacing one that is there. -/
def insert (m : SortedMap κ α) (k : κ) (a : α) : SortedMap κ α := m.alter k fun _ => a

/-- Put a value at a key, unless one is there already. -/
def insertNew (m : SortedMap κ α) (k : κ) (a : α) : SortedMap κ α := m.alter k (·.getD a)

/-! ### Properties of all values -/

omit [Std.TransOrd κ] in
theorem mem_values {m : SortedMap κ α} {a : α} : a ∈ m.values ↔ ∃ k, (k, a) ∈ m.entries := by
  simp only [values, List.mem_map, Prod.exists, exists_eq_right]

omit [Std.TransOrd κ] in
theorem isEmpty_mapValues (m : SortedMap κ α) (f : κ → α → β) :
    (m.mapValues f).isEmpty = m.isEmpty := List.isEmpty_map

theorem isEmpty_alter (m : SortedMap κ α) (k : κ) (f : Option α → α) :
    (m.alter k f).isEmpty = false := by
  show (alterEntries k f m.entries).isEmpty = false
  cases m.entries with
  | nil => rfl
  | cons hd tl =>
    rw [alterEntries]
    split <;> rfl

omit [Std.TransOrd κ] in
theorem forall_values_mapValues {p : β → Prop} {m : SortedMap κ α} {f : κ → α → β}
    (h : ∀ k, ∀ a ∈ m.values, p (f k a)) : ∀ b ∈ (m.mapValues f).values, p b := by
  intro b hb
  obtain ⟨k, hb⟩ := mem_values.1 hb
  obtain ⟨e, he, heq⟩ := List.mem_map.1 hb
  cases heq
  exact h e.1 e.2 (List.mem_map_of_mem he)

omit [Std.TransOrd κ] in
theorem forall_values_modify {p : α → Prop} {m : SortedMap κ α} {k : κ} {f : α → α}
    (hf : ∀ a ∈ m.values, p (f a)) (h : ∀ a ∈ m.values, p a) :
    ∀ a ∈ (m.modify k f).values, p a := by
  refine forall_values_mapValues fun j a ha => ?_
  split
  · exact hf a ha
  · exact h a ha

omit [Std.TransOrd κ] in
theorem forall_alterEntries {p : α → Prop} {k : κ} {f : Option α → α} (hf : ∀ o, p (f o)) :
    ∀ {l : List (κ × α)}, (∀ e ∈ l, p e.2) → ∀ e ∈ alterEntries k f l, p e.2
  | [], _ => by
      rw [alterEntries, List.forall_mem_singleton]
      exact hf none
  | (j, a) :: l, h => by
      have hl : ∀ e ∈ l, p e.2 := fun e he => h e (List.mem_cons_of_mem _ he)
      rw [alterEntries]
      split
      · exact List.forall_mem_cons.2 ⟨hf none, h⟩
      · exact List.forall_mem_cons.2 ⟨hf (some a), hl⟩
      · exact List.forall_mem_cons.2 ⟨h _ List.mem_cons_self, forall_alterEntries hf hl⟩

/-- What holds of all values, and of the one that is put, holds of all values afterwards. -/
theorem forall_values_alter {p : α → Prop} {m : SortedMap κ α} {k : κ} {f : Option α → α}
    (hf : ∀ o, p (f o)) (h : ∀ a ∈ m.values, p a) : ∀ a ∈ (m.alter k f).values, p a := by
  have hentries := forall_alterEntries (k := k) hf fun e he => h e.2 (List.mem_map_of_mem he)
  intro a ha
  obtain ⟨j, ha⟩ := mem_values.1 ha
  exact hentries (j, a) ha

end SortedMap

/-- A finite set in ascending order. -/
abbrev SortedSet (κ : Type) [Ord κ] := SortedMap κ Unit

end MessageCatalog
