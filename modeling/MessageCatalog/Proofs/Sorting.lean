import MessageCatalog.Proofs.ByteOrder
import MessageCatalog.Proofs.Summary

/-! # The order of a catalog

A catalog is filled file by file and may be read at any time in between.  Through `get?` a run of
operations is a search for the first that puts in a file (`get?_perform`, `get?_after`), which says
at once that reads do not matter, that a second insertion of a file is lost and that insertions of
different files may change places.  Listing the catalog then goes through the files in the order of
the bytes of their paths (`Catalog.IsFilledBy`).

Sorting is by the bytes of the message as it is written, and stable: what has one message stays in
the order of the listing (`filter_mergeSort`).  A template has the same blocks in either order
(`Catalog.IsStablySorted`). -/

namespace MessageCatalog

/-! ### Listing a sorted map -/

theorem SortedMap.flatten_values {κ α : Type} [Ord κ] [Std.LawfulEqOrd κ]
    (m : SortedMap κ (List α)) : m.values.flatten = m.keys.flatMap fun k => (m.get? k).getD [] := by
  have hentry : ∀ e ∈ m.entries, e.2 = (m.get? e.1).getD [] := by
    intro e he
    rw [get?_eq_some_iff.2 he, Option.getD_some]
  rw [values, keys, List.flatMap_map, ← List.flatMap_def]
  exact List.flatMap_congr hentry

namespace Catalog

/-! ### Filling and reading a catalog -/

/-- What a catalog can be asked to do. -/
inductive Operation where
  | insert (file : String) (entries : List Entry)
  | entries (file : String)
  | all
  | found
  | sorted
  | template (sort : Bool)
  | size
  | isEmpty

/-- What an operation answers. -/
inductive Answer where
  | done
  | entries (es : List Entry)
  | text (t : String)
  | number (n : Nat)
  | truth (b : Bool)

namespace Operation

/-- The entries that an operation puts in for a file. -/
def offer? (file : String) : Operation → Option (List Entry)
  | insert f es => if file = f then some es else none
  | _ => none

/-- The operation puts in a file. -/
def isInsert : Operation → Bool
  | insert _ _ => true
  | _ => false

end Operation

/-- Perform an operation: its answer, and the catalog after it. -/
def perform (c : Catalog) : Operation → Answer × Catalog
  | .insert file es => (.done, c.insert file es)
  | .entries file => (.entries (c.entries file), c)
  | .all => (.entries c.all, c)
  | .found => (.entries c.found, c)
  | .sorted => (.entries c.sorted, c)
  | .template sort => (.text (c.template sort), c)
  | .size => (.number c.size, c)
  | .isEmpty => (.truth c.isEmpty, c)

/-- The catalog after operations. -/
def after (c : Catalog) (ops : List Operation) : Catalog :=
  ops.foldl (fun c op => (c.perform op).2) c

/-- The entries that the operations put in first for a file. -/
def first? (ops : List Operation) (file : String) : Option (List Entry) :=
  ops.findSome? (·.offer? file)

variable {c d : Catalog}

theorem ext_get? (h : ∀ file, c.files.get? file = d.files.get? file) : c = d := by
  obtain ⟨files⟩ := c
  obtain ⟨files'⟩ := d
  exact congrArg Catalog.mk (SortedMap.ext_get? h)

theorem get?_insert (c : Catalog) (file p : String) (es : List Entry) :
    (c.insert file es).files.get? p =
      (c.files.get? p).or (if p = file then some es else none) := by
  rw [insert, SortedMap.get?_insertNew]
  by_cases h : p = file
  · subst h
    cases c.files.get? p <;> simp
  · simp [h]

/-- An operation leaves what is there and adds what it puts in. -/
theorem get?_perform (c : Catalog) (op : Operation) (p : String) :
    (c.perform op).2.files.get? p = (c.files.get? p).or (op.offer? p) := by
  cases op with
  | insert file es => exact c.get?_insert file p es
  | entries | all | found | sorted | template | size | isEmpty => exact Option.or_none.symm

/-- A catalog holds what was put in first for each file. -/
theorem get?_after (c : Catalog) (ops : List Operation) (p : String) :
    (c.after ops).files.get? p = (c.files.get? p).or (first? ops p) := by
  induction ops generalizing c with
  | nil => exact Option.or_none.symm
  | cons op ops ih =>
    have hcons : c.after (op :: ops) = (c.perform op).2.after ops := rfl
    have hfirst : first? (op :: ops) p = (op.offer? p).or (first? ops p) := by
      rw [first?, List.findSome?_cons]
      cases op.offer? p <;> rfl
    rw [hcons, ih, get?_perform, hfirst, Option.or_assoc]

theorem get?_after_empty (ops : List Operation) (p : String) :
    (empty.after ops).files.get? p = first? ops p := by
  rw [get?_after]
  rfl

theorem perform_of_not_isInsert {op : Operation} (h : op.isInsert = false) (c : Catalog) :
    (c.perform op).2 = c := by
  cases op with
  | insert file es => cases h
  | entries | all | found | sorted | template | size | isEmpty => rfl

/-- Reads do not matter for what comes after. -/
theorem after_filter_isInsert (c : Catalog) (ops : List Operation) :
    c.after (ops.filter Operation.isInsert) = c.after ops := by
  induction ops generalizing c with
  | nil => rfl
  | cons op ops ih =>
    cases hop : op.isInsert with
    | true =>
      rw [List.filter_cons_of_pos hop]
      exact ih _
    | false =>
      rw [List.filter_cons_of_neg (by simp [hop]), ih]
      show c.after ops = (c.perform op).2.after ops
      rw [perform_of_not_isInsert hop]

theorem insert_comm (c : Catalog) {p q : String} (h : p ≠ q) (es fs : List Entry) :
    (c.insert p es).insert q fs = (c.insert q fs).insert p es := by
  refine ext_get? fun file => ?_
  simp only [get?_insert, Option.or_assoc]
  by_cases hp : file = p
  · simp [hp, h]
  · simp [hp]

theorem insert_of_isSome {p : String} (h : (c.files.get? p).isSome = true) (es : List Entry) :
    c.insert p es = c := by
  refine ext_get? fun file => ?_
  rw [get?_insert]
  by_cases hp : file = p
  · subst hp
    obtain ⟨fs, hfs⟩ := Option.isSome_iff_exists.1 h
    rw [hfs]
    rfl
  · rw [if_neg hp, Option.or_none]

/-- The catalog lists what the operations put in: for each file, in the order of the bytes of the
paths, the entries that came first. -/
structure IsFilledBy (c : Catalog) (ops : List Operation) : Prop where
  listed : ∃ paths : List String, (paths.Pairwise fun p q => Text.bytes p < Text.bytes q) ∧
    (∀ p, p ∈ paths ↔ ∃ es, .insert p es ∈ ops) ∧
    c.all = paths.flatMap fun p => (first? ops p).getD []
  /-- The first entries are those of the first insertion of the file. -/
  first : ∀ p es, first? ops p = some es ↔
    ∃ front back, ops = front ++ .insert p es :: back ∧ ∀ fs, .insert p fs ∉ front
  /-- Another order of operations that has the same first entries gives the same catalog. -/
  determined : ∀ ops', (∀ p, first? ops' p = first? ops p) → empty.after ops' = c
  /-- Another insertion of a file is lost. -/
  kept : ∀ p es fs, .insert p es ∈ ops → c.insert p fs = c

theorem offer?_eq_some_iff {op : Operation} {p : String} {es : List Entry} :
    op.offer? p = some es ↔ op = .insert p es := by
  cases op with
  | insert file fs =>
    rw [Operation.offer?, Operation.insert.injEq]
    by_cases h : p = file
    · simp [h]
    · simp [h, Ne.symm h]
  | entries | all | found | sorted | template | size | isEmpty => simp [Operation.offer?]

theorem isSome_first?_iff {ops : List Operation} {p : String} :
    (first? ops p).isSome = true ↔ ∃ es, .insert p es ∈ ops := by
  rw [first?, List.findSome?_isSome_iff]
  constructor
  · rintro ⟨op, hop, hsome⟩
    obtain ⟨es, hes⟩ := Option.isSome_iff_exists.1 hsome
    rw [offer?_eq_some_iff] at hes
    exact ⟨es, hes ▸ hop⟩
  · rintro ⟨es, hes⟩
    exact ⟨_, hes, by rw [offer?_eq_some_iff.2 rfl]; rfl⟩

theorem first?_eq_some_iff {ops : List Operation} {p : String} {es : List Entry} :
    first? ops p = some es ↔
      ∃ front back, ops = front ++ .insert p es :: back ∧ ∀ fs, .insert p fs ∉ front := by
  have hnone : ∀ front : List Operation,
      (∀ op ∈ front, op.offer? p = none) ↔ ∀ fs, .insert p fs ∉ front := by
    intro front
    constructor
    · intro h fs hfs
      have hoffer := h _ hfs
      rw [offer?_eq_some_iff.2 rfl] at hoffer
      cases hoffer
    · intro h op hop
      rw [Option.eq_none_iff_forall_ne_some]
      intro fs hfs
      rw [offer?_eq_some_iff] at hfs
      exact h fs (hfs ▸ hop)
  rw [first?, List.findSome?_eq_some_iff]
  simp only [offer?_eq_some_iff, hnone]
  constructor
  · rintro ⟨front, op, back, hops, rfl, hfront⟩
    exact ⟨front, back, hops, hfront⟩
  · rintro ⟨front, back, hops, hfront⟩
    exact ⟨front, _, back, hops, rfl, hfront⟩

theorem isFilledBy_after (ops : List Operation) : (empty.after ops).IsFilledBy ops where
  listed := by
    refine ⟨(empty.after ops).files.keys, ?_, fun p => ?_, ?_⟩
    · exact (SortedMap.keys_ascending _).imp Text.compare_eq_lt_iff_bytes.1
    · rw [SortedMap.mem_keys_iff, get?_after_empty, isSome_first?_iff]
    · rw [all, SortedMap.flatten_values]
      simp only [get?_after_empty]
  first _ _ := first?_eq_some_iff
  determined ops' h := by
    refine ext_get? fun p => ?_
    rw [get?_after_empty, get?_after_empty, h]
  kept p es fs h := by
    refine insert_of_isSome ?_ fs
    rw [get?_after_empty]
    exact isSome_first?_iff.2 ⟨es, h⟩

/-! ### Sorting -/

section keys

variable {α : Type}

/-- What sorting compares. -/
def keyLE (a b : String × α) : Bool := (compare a.1 b.1).isLE

theorem keyLE_trans (a b c : String × α) : keyLE a b = true → keyLE b c = true →
    keyLE a c = true := Std.TransCmp.isLE_trans

theorem keyLE_total (a b : String × α) : (keyLE a b || keyLE b a) = true := by
  unfold keyLE
  cases h : compare a.1 b.1 with
  | lt => rfl
  | eq => rfl
  | gt => rw [Std.OrientedCmp.gt_iff_lt.1 h]; rfl

/-- Sorting by a key keeps the order of what has one key. -/
theorem filter_mergeSort (l : List (String × α)) (key : String) :
    (l.mergeSort keyLE).filter (·.1 = key) = l.filter (·.1 = key) := by
  -- what has the key is sorted already, so it is a part of the sorted list, and of the same length
  have hsorted : (l.filter (·.1 = key)).Pairwise fun a b => keyLE a b = true := by
    refine List.pairwise_of_forall_mem_list fun a ha b hb => ?_
    have hakey : a.1 = key := by simpa using (List.mem_filter.1 ha).2
    have hbkey : b.1 = key := by simpa using (List.mem_filter.1 hb).2
    rw [keyLE, hakey, hbkey, Std.ReflOrd.compare_self]
    rfl
  have hsub := (List.sublist_mergeSort keyLE_trans keyLE_total hsorted List.filter_sublist).filter
    (·.1 = key)
  simp only [List.filter_filter, Bool.and_self] at hsub
  refine (hsub.eq_of_length ?_).symm
  exact ((List.mergeSort_perm _ _).filter _).length_eq.symm

end keys

theorem sorted_eq (c : Catalog) : c.sorted = (c.keyed.mergeSort keyLE).map (·.2) := rfl

/-- The key of an entry is its message as it is written. -/
theorem msgid_of_mem_keyed {a : String × Entry} (h : a ∈ c.keyed) : a.2.msgid = some a.1 := by
  obtain ⟨e, _, he⟩ := List.mem_filterMap.1 h
  obtain ⟨m, hm, rfl⟩ := Option.map_eq_some_iff.1 he
  exact hm

/-- The entries by message, and the template in that order. -/
structure IsStablySorted (c : Catalog) : Prop where
  perm : c.sorted.Perm (c.all.filter fun e => e.state = .found ∧ e.text.isSome)
  /-- The messages, as they are written, ascend by their bytes. -/
  ascending : c.sorted.Pairwise fun e f => ∀ m n, e.msgid = some m → f.msgid = some n →
    ¬Text.bytes n < Text.bytes m
  /-- What has one message stays in the order of the listing. -/
  stable : ∀ m, c.sorted.filter (·.msgid = some m) =
    c.all.filter fun e => e.state = .found ∧ e.msgid = some m
  /-- A template is made of blocks, which are the same in either order. -/
  written : ∀ sort, c.template sort = String.join ((c.blocks sort).map (· ++ "\n"))
  blocks : (c.blocks true).Perm (c.blocks false)

theorem sorted_ascending (c : Catalog) :
    c.sorted.Pairwise fun e f => ∀ m n, e.msgid = some m → f.msgid = some n →
      ¬Text.bytes n < Text.bytes m := by
  rw [sorted_eq, List.pairwise_map]
  refine (List.pairwise_mergeSort keyLE_trans keyLE_total c.keyed).imp_of_mem ?_
  intro a b ha hb hle m n hm hn
  rw [msgid_of_mem_keyed (List.mem_mergeSort.1 ha), Option.some.injEq] at hm
  rw [msgid_of_mem_keyed (List.mem_mergeSort.1 hb), Option.some.injEq] at hn
  subst hm hn
  exact Text.isLE_compare_iff_bytes.1 hle

theorem filter_sorted (c : Catalog) (m : String) :
    c.sorted.filter (·.msgid = some m) =
      c.all.filter fun e => e.state = .found ∧ e.msgid = some m := by
  -- by message and by key are the same, before sorting and after it
  have hkey : ∀ l : List (String × Entry), (∀ a ∈ l, a ∈ c.keyed) →
      (l.map (·.2)).filter (·.msgid = some m) = (l.filter (·.1 = m)).map (·.2) := by
    intro l hl
    rw [List.filter_map]
    refine congrArg _ (List.filter_congr fun a ha => ?_)
    simp [msgid_of_mem_keyed (hl a ha)]
  rw [sorted_eq, hkey _ fun a ha => List.mem_mergeSort.1 ha, filter_mergeSort,
    ← hkey _ fun a ha => ha, map_snd_keyed, filter_found, List.filter_filter]
  refine List.filter_congr fun e _ => ?_
  cases htext : e.text <;> simp [Entry.msgid, htext, Bool.and_comm]

theorem blocks_eq (c : Catalog) (sort : Bool) :
    c.blocks sort = (c.rendered sort).filterMap Entry.block := by
  rw [blocks, rendered, List.filterMap_filter]
  refine List.filterMap_congr fun e _ => ?_
  cases htext : e.text <;> simp [Entry.block, Entry.msgid, htext]

theorem isStablySorted (c : Catalog) : c.IsStablySorted where
  perm := c.sorted_perm
  ascending := c.sorted_ascending
  stable := c.filter_sorted
  written := c.template_eq
  blocks := by
    rw [blocks_eq, blocks_eq]
    exact ((c.rendered_perm true).trans (c.rendered_perm false).symm).filterMap _

end Catalog

open Catalog in
/-- A catalog lists the first entries of each file by the path, whatever else was put in for it and
whatever was read in between.  Sorting is by message and stable, and a template has the same blocks
in either order.  Insertions of different files may change places, and reads change nothing. -/
theorem sorted_view_is_stable (ops : List Operation) :
    (empty.after ops).IsFilledBy ops ∧ (empty.after ops).IsStablySorted ∧
    (∀ (c : Catalog) (p q : String) (es fs : List Entry), p ≠ q →
      (c.insert p es).insert q fs = (c.insert q fs).insert p es) ∧
    (∀ op : Operation, op.isInsert = false →
      ((empty.after ops).perform op).2 = empty.after ops) ∧
    empty.after (ops.filter Operation.isInsert) = empty.after ops :=
  ⟨isFilledBy_after ops, isStablySorted _, fun c _ _ es fs h => c.insert_comm h es fs,
    fun _ h => perform_of_not_isInsert h _, after_filter_isInsert _ ops⟩

/-- Two files out of order with a message in common, a read, and one of the files again. -/
def refilled : List Catalog.Operation :=
  [.insert "b.go" [.found ⟨"b.go", 3, 3⟩ "a\"" none, .found ⟨"b.go", 5, 3⟩ "a b" none], .sorted,
    .insert "a.go" [.ignored ⟨"a.go", 2, 3⟩, .found ⟨"a.go", 7, 3⟩ "a b" none],
    .insert "b.go" []]

open Catalog in
/-- The common message stays in the order of the paths, and the file that came again keeps its
entries. -/
theorem refilled_catalog_is_stable :
    (empty.after refilled).IsFilledBy refilled ∧ (empty.after refilled).IsStablySorted ∧
    (empty.after refilled).sorted.filter (·.msgid = some "\"a b\"") =
      [.found ⟨"a.go", 7, 3⟩ "a b" none, .found ⟨"b.go", 5, 3⟩ "a b" none] ∧
    .insert "b.go" [] ∈ refilled ∧ (empty.after refilled).insert "b.go" [] = empty.after refilled ∧
    (empty.insert "a.go" []).insert "b.go" [.notFound ⟨"b.go", 1, 1⟩] =
      (empty.insert "b.go" [.notFound ⟨"b.go", 1, 1⟩]).insert "a.go" [] ∧
    ((empty.after refilled).perform .sorted).2 = empty.after refilled := by
  obtain ⟨hfilled, hsorted, hcomm, hread, _⟩ := sorted_view_is_stable refilled
  have hagain : .insert "b.go" [] ∈ refilled := by simp [refilled]
  exact ⟨hfilled, hsorted, (hsorted.stable _).trans (by decide +kernel), hagain, hfilled.kept _ _ _ hagain,
    hcomm _ _ _ _ _ (by decide), hread .sorted rfl⟩

end MessageCatalog
