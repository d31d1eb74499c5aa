import MessageCatalog.Match.Index
import MessageCatalog.Proofs.SortedMap

/-! # Laws of the index of requested locations

An index holds the columns of each line in a map of their own.  Its `view` is one map of all
locations, in the order of lines and columns, and each operation is the one on this map:
requesting inserts (`view_request`), writing modifies (`view_write`), ending a search maps
(`view_finish`), and what is listed and counted is what the view lists and counts
(`pending_eq_view`, `size_eq_view`, `isEmpty_eq_view`).  The last of these needs that no line is
held without a location.

Everything else is read through `state`.  Requesting a location makes it pending, resolving it
takes exactly that location from the pending ones (`isPending_resolve`, `pending_resolve`), and
`pending` lists them in ascending order. -/

namespace MessageCatalog

namespace Location

/-- One location stands before another: on an earlier line, or on the same line in an earlier
column. -/
def Before (a b : Location) : Prop := a.line < b.line ∨ a.line = b.line ∧ a.column < b.column

theorem compare_eq_lt_iff {a b : Location} : compare a b = .lt ↔ a.Before b := by
  show (compare a.line b.line).then (compare a.column b.column) = .lt ↔ _
  rw [Ordering.then_eq_lt, Nat.compare_eq_lt, Nat.compare_eq_eq, Nat.compare_eq_lt]
  exact Iff.rfl

theorem eq_iff {a b : Location} : a = b ↔ a.line = b.line ∧ a.column = b.column := by
  cases a
  cases b
  exact Location.mk.injEq .. ▸ Iff.rfl

end Location

namespace PositionIndex

/-! ### One map of all locations -/

theorem toList_ascending (i : PositionIndex) :
    i.toList.Pairwise fun a b => compare a.1 b.1 = .lt := by
  rw [toList, List.pairwise_flatMap]
  constructor
  · rintro ⟨line, columns⟩ _
    refine List.Pairwise.map _ (fun a b hab => ?_) columns.ascending
    exact Location.compare_eq_lt_iff.2 (.inr ⟨rfl, Nat.compare_eq_lt.1 hab⟩)
  · refine i.lines.ascending.imp fun {a b} hab x hx y hy => ?_
    obtain ⟨c, _, rfl⟩ := List.mem_map.1 hx
    obtain ⟨d, _, rfl⟩ := List.mem_map.1 hy
    exact Location.compare_eq_lt_iff.2 (.inl (Nat.compare_eq_lt.1 hab))

/-- The locations with their states as one map. -/
def view (i : PositionIndex) : SortedMap Location MatchState := ⟨i.toList, i.toList_ascending⟩

theorem mem_toList {i : PositionIndex} {l : Location} {s : MatchState} :
    (l, s) ∈ i.toList ↔ i.state l = some s := by
  rw [toList, state, Option.bind_eq_some_iff, List.mem_flatMap]
  constructor
  · rintro ⟨⟨line, columns⟩, hline, h⟩
    obtain ⟨⟨column, t⟩, hcolumn, heq⟩ := List.mem_map.1 h
    cases heq
    exact ⟨columns, SortedMap.get?_eq_some_iff.2 hline, SortedMap.get?_eq_some_iff.2 hcolumn⟩
  · rintro ⟨columns, hline, hcolumn⟩
    rw [SortedMap.get?_eq_some_iff] at hline hcolumn
    exact ⟨(l.line, columns), hline, List.mem_map.2 ⟨(l.column, s), hcolumn, rfl⟩⟩

theorem get?_view (i : PositionIndex) (l : Location) : i.view.get? l = i.state l := by
  ext s
  rw [SortedMap.get?_eq_some_iff]
  exact mem_toList

/-- Requesting a location inserts it. -/
theorem view_request (i : PositionIndex) (l : Location) :
    (i.request l).view = i.view.insert l .pending := by
  refine SortedMap.ext_get? fun k => ?_
  rw [SortedMap.get?_insert, get?_view, get?_view]
  unfold state request
  rw [SortedMap.get?_alter]
  by_cases hline : k.line = l.line
  · rw [if_pos hline, Option.bind_some, SortedMap.get?_insert, hline]
    simp only [Location.eq_iff, hline, true_and]
    cases i.lines.get? l.line with
    | none => rfl
    | some columns => rfl
  · have hk : k ≠ l := fun e => hline (congrArg Location.line e)
    rw [if_neg hline, if_neg hk]

/-- Writing to a location changes it there, if it is held. -/
theorem view_write (i : PositionIndex) (l : Location) (s : MatchState) :
    (i.write l s).view = i.view.modify l fun _ => s := by
  refine SortedMap.ext_get? fun k => ?_
  rw [SortedMap.get?_modify, get?_view, get?_view]
  unfold state write
  rw [SortedMap.get?_modify]
  by_cases hline : k.line = l.line
  · rw [if_pos hline, Option.bind_map]
    simp only [Location.eq_iff, hline, true_and]
    cases i.lines.get? l.line with
    | none => simp
    | some columns => exact SortedMap.get?_modify columns l.column _ k.column
  · have hk : k ≠ l := fun e => hline (congrArg Location.line e)
    rw [if_neg hline, if_neg hk]

/-- Ending a search changes the states alone. -/
theorem view_finish (i : PositionIndex) :
    i.finish.2.view = i.view.mapValues fun _ s => if s = .pending then .notFound else s := by
  refine SortedMap.ext_get? fun k => ?_
  rw [SortedMap.get?_mapValues, get?_view, get?_view]
  unfold state finish
  rw [SortedMap.get?_mapValues, Option.bind_map]
  cases i.lines.get? k.line with
  | none => rfl
  | some columns => exact SortedMap.get?_mapValues columns _ k.column

theorem pending_eq_view (i : PositionIndex) :
    i.pending = (i.view.entries.filter (·.2 = .pending)).map (·.1) := by
  show i.pending = (i.toList.filter (·.2 = .pending)).map (·.1)
  rw [pending, toList, List.filter_flatMap, List.map_flatMap]
  simp only [List.filter_map, List.map_map]
  rfl

theorem size_eq_view (i : PositionIndex) : i.size = i.view.size :=
  (i.lines.length_flatMap_entries fun line e => (Location.mk line e.1, e.2)).symm

/-- No line is held if no location is, as no line is held without one. -/
theorem isEmpty_eq_view (i : PositionIndex) : i.isEmpty = i.view.isEmpty := by
  show i.lines.entries.isEmpty = i.toList.isEmpty
  rw [toList]
  cases h : i.lines.entries with
  | nil => rfl
  | cons e es =>
    have hmem : e.2 ∈ i.lines.values := by
      rw [SortedMap.values, h]
      exact List.mem_cons_self
    have hcolumns : e.2.entries ≠ [] := List.isEmpty_eq_false_iff.1 (i.occupied e.2 hmem)
    simp [hcolumns]

theorem isPending_iff {i : PositionIndex} {l : Location} :
    i.isPending l = true ↔ i.state l = some .pending := by
  rw [isPending, decide_eq_true_iff]

/-! ### Requesting -/

theorem state_request (i : PositionIndex) (l k : Location) :
    (i.request l).state k = if k = l then some .pending else i.state k := by
  rw [← get?_view, view_request, SortedMap.get?_insert, get?_view]

theorem state_foldl_request (k : Location) : ∀ (ls : List Location) (i : PositionIndex),
    (ls.foldl request i).state k = if k ∈ ls then some .pending else i.state k
  | [], i => by simp
  | l :: ls, i => by
      rw [List.foldl_cons, state_foldl_request k ls, state_request]
      by_cases h : k ∈ ls
      · simp [h]
      · simp [h, List.mem_cons]

/-- An index of requested locations holds exactly these, all pending. -/
theorem state_ofList (ls : List Location) (l : Location) :
    (ofList ls).state l = if l ∈ ls then some .pending else none := by
  rw [ofList, state_foldl_request]
  rfl

theorem isPending_ofList (ls : List Location) (l : Location) :
    (ofList ls).isPending l = decide (l ∈ ls) := by
  rw [isPending, state_ofList]
  by_cases h : l ∈ ls <;> simp [h]

/-! ### Resolving -/

theorem state_resolve (i : PositionIndex) (l : Location) (s : MatchState) (k : Location) :
    (i.resolve l s).2.state k = if k = l ∧ i.isPending l then some s else i.state k := by
  unfold resolve
  by_cases hp : i.isPending l = true
  · rw [if_pos hp]
    show (i.write l s).state k = _
    rw [← get?_view, view_write, SortedMap.get?_modify, get?_view]
    by_cases hk : k = l
    · subst hk
      simp [hp, isPending_iff.1 hp]
    · simp only [hk, false_and, ↓reduceIte]
  · rw [if_neg hp]
    simp [hp]

/-- Resolving a location takes it, and no other, from the pending ones. -/
theorem isPending_resolve {s : MatchState} (hs : s ≠ .pending) (i : PositionIndex)
    (l k : Location) : (i.resolve l s).2.isPending k = (i.isPending k && k ≠ l) := by
  rw [Bool.eq_iff_iff, isPending_iff, state_resolve, Bool.and_eq_true]
  by_cases hk : k = l
  · subst hk
    by_cases hp : i.isPending k = true
    · simp [hp, hs]
    · simp [hp, ← isPending_iff]
  · simp [hk, isPending_iff]

/-! ### The pending locations -/

theorem mem_pending {i : PositionIndex} {l : Location} :
    l ∈ i.pending ↔ i.isPending l = true := by
  rw [isPending_iff, ← get?_view, SortedMap.get?_eq_some_iff, pending_eq_view]
  constructor
  · intro h
    obtain ⟨⟨k, s⟩, he, rfl⟩ := List.mem_map.1 h
    obtain ⟨he, hs⟩ := List.mem_filter.1 he
    obtain rfl : s = .pending := by simpa using hs
    exact he
  · intro h
    exact List.mem_map.2 ⟨(l, .pending), List.mem_filter.2 ⟨h, by simp⟩, rfl⟩

theorem pending_ascending (i : PositionIndex) :
    i.pending.Pairwise fun a b => compare a b = .lt := by
  rw [pending_eq_view]
  exact List.Pairwise.map _ (fun _ _ h => h) (i.view.ascending.filter _)

theorem pending_nodup (i : PositionIndex) : i.pending.Nodup :=
  i.pending_ascending.imp SortedMap.ne_of_compare_lt

theorem pending_resolve {s : MatchState} (hs : s ≠ .pending) (i : PositionIndex) (l : Location) :
    (i.resolve l s).2.pending = i.pending.filter (· ≠ l) := by
  refine SortedMap.eq_of_ascending id (pending_ascending _) (i.pending_ascending.filter _) ?_
  intro k
  rw [List.mem_filter, mem_pending, mem_pending, isPending_resolve hs, Bool.and_eq_true]

theorem isPending_of_isEmpty {i : PositionIndex} (h : i.isEmpty = true) (l : Location) :
    i.isPending l = false := by
  have hlines : i.lines.get? l.line = none := by
    rw [SortedMap.get?, List.isEmpty_iff.1 h]
    rfl
  rw [isPending, state, hlines]
  rfl

end PositionIndex

end MessageCatalog
