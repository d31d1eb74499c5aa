import Mathlib.Data.List.Dedup
import MessageCatalog.Proofs.Index

/-! # The index as a write-once map

`Operation` lists what can be asked of an index and done to it, and `perform` does it.  `Serves`
says, operation by operation, what a write-once map that holds the locations `ls` answers and
leaves behind, through nothing but `state` and the order `Location.Before`: it knows nothing of
lines that hold columns.

A step from an index that holds `ls` is served and leaves an index that holds `ls`
(`serves_perform`, `Serves.holds`); what is served changes a location from pending to a terminal
state or not at all (`Serves.state_cases`).  Whole runs follow by induction: a location changes at
most once (`changes_le_one`), and once a search has ended nothing is pending any more
(`finish_of_finished`). -/

namespace MessageCatalog

namespace PositionIndex

/-! ### Operations -/

/-- What can be asked of an index or done to it.  A location is resolved to a terminal state
only. -/
inductive Operation where
  | state (l : Location)
  | isPending (l : Location)
  | resolve (l : Location) (s : MatchState) (terminal : s.isTerminal = true)
  | finish
  | toList
  | size
  | isEmpty
deriving DecidableEq

/-- The answer to an operation. -/
inductive Answer where
  | state (s : Option MatchState)
  | truth (b : Bool)
  | locations (ls : List Location)
  | cells (cells : List (Location × MatchState))
  | count (n : Nat)
deriving DecidableEq, Repr

/-- Perform an operation: its answer, and the index after it. -/
def perform (i : PositionIndex) : Operation → Answer × PositionIndex
  | .state l => (.state (i.state l), i)
  | .isPending l => (.truth (i.isPending l), i)
  | .resolve l s _ => (.truth (i.resolve l s).1, (i.resolve l s).2)
  | .finish => (.locations i.finish.1, i.finish.2)
  | .toList => (.cells i.toList, i)
  | .size => (.count i.size, i)
  | .isEmpty => (.truth i.isEmpty, i)

/-- The index after operations. -/
def after (i : PositionIndex) (ops : List Operation) : PositionIndex :=
  ops.foldl (fun i op => (i.perform op).2) i

/-- An operation as it was performed. -/
structure Step where
  before : PositionIndex
  operation : Operation
  answer : Answer
  after : PositionIndex

/-- The steps of operations performed one after the other. -/
def trace (i : PositionIndex) : List Operation → List Step
  | [] => []
  | op :: ops => ⟨i, op, (i.perform op).1, (i.perform op).2⟩ :: trace (i.perform op).2 ops

/-- The step changes the state of the location. -/
def Step.changes (l : Location) (t : Step) : Bool := t.before.state l ≠ t.after.state l

/-! ### What a write-once map does -/

/-- The index holds exactly these locations. -/
def Holds (ls : List Location) (i : PositionIndex) : Prop := ∀ l, (i.state l).isSome ↔ l ∈ ls

/-- What a write-once map of the locations `ls` answers to an operation, and what it is after
it. -/
inductive Serves (ls : List Location) (i : PositionIndex) :
    Operation → Answer → PositionIndex → Prop where
  | state (l : Location) : Serves ls i (.state l) (.state (i.state l)) i
  | isPending (l : Location) :
      Serves ls i (.isPending l) (.truth (decide (i.state l = some .pending))) i
  /-- A requested location that is pending takes the state, and no other cell changes. -/
  | resolved {l : Location} {s : MatchState} (terminal : s.isTerminal = true)
      {j : PositionIndex} (requested : l ∈ ls) (pending : i.state l = some .pending)
      (cells : ∀ k, j.state k = if k = l then some s else i.state k) :
      Serves ls i (.resolve l s terminal) (.truth true) j
  /-- Any other location is refused, and nothing changes. -/
  | refused {l : Location} {s : MatchState} (terminal : s.isTerminal = true)
      (closed : ¬(l ∈ ls ∧ i.state l = some .pending)) :
      Serves ls i (.resolve l s terminal) (.truth false) i
  /-- The pending locations are told in order and are not found, and no other cell changes. -/
  | finish {rest : List Location} {j : PositionIndex} (ascending : rest.Pairwise Location.Before)
      (pending : ∀ l, l ∈ rest ↔ i.state l = some .pending)
      (cells : ∀ k, j.state k =
        if i.state k = some .pending then some .notFound else i.state k) :
      Serves ls i .finish (.locations rest) j
  /-- The cells are told in the order of their locations. -/
  | toList {cells : List (Location × MatchState)}
      (ascending : (cells.map Prod.fst).Pairwise Location.Before)
      (listed : ∀ l s, (l, s) ∈ cells ↔ i.state l = some s) :
      Serves ls i .toList (.cells cells) i
  | size : Serves ls i .size (.count ls.dedup.length) i
  | isEmpty : Serves ls i .isEmpty (.truth ls.isEmpty) i

/-! ### One step -/

section step

variable {ls : List Location} {i j : PositionIndex} {op : Operation} {answer : Answer}

theorem holds_ofList (ls : List Location) : (ofList ls).Holds ls := by
  intro l
  rw [state_ofList]
  by_cases h : l ∈ ls <;> simp [h]

theorem mem_keys_view_iff_of_holds (h : i.Holds ls) (l : Location) :
    l ∈ i.view.keys ↔ l ∈ ls := by
  rw [SortedMap.mem_keys_iff, get?_view]
  exact h l

theorem size_of_holds (h : i.Holds ls) : i.size = ls.dedup.length := by
  have hperm : i.view.keys.Perm ls.dedup := by
    refine (List.perm_ext_iff_of_nodup i.view.keys_nodup ls.nodup_dedup).2 fun l => ?_
    rw [mem_keys_view_iff_of_holds h, List.mem_dedup]
  rw [size_eq_view, ← hperm.length_eq, SortedMap.keys, List.length_map]
  rfl

theorem isEmpty_of_holds (h : i.Holds ls) : i.isEmpty = ls.isEmpty := by
  have hkeys : i.view.keys = [] ↔ ls = [] := by
    rw [List.eq_nil_iff_forall_not_mem, List.eq_nil_iff_forall_not_mem]
    simp only [mem_keys_view_iff_of_holds h]
  rw [SortedMap.keys, List.map_eq_nil_iff] at hkeys
  rw [isEmpty_eq_view, Bool.eq_iff_iff, List.isEmpty_iff, ← hkeys]
  exact List.isEmpty_iff

/-- The lines that are held are those of the requested locations. -/
theorem isSome_line_iff_of_holds (h : i.Holds ls) (line : Nat) :
    (i.lines.get? line).isSome ↔ ∃ l ∈ ls, l.line = line := by
  rw [Option.isSome_iff_exists]
  constructor
  · rintro ⟨columns, hcolumns⟩
    -- the line has a location, since it is held
    have hmem : columns ∈ i.lines.values :=
      SortedMap.mem_values.2 ⟨line, SortedMap.get?_eq_some_iff.1 hcolumns⟩
    obtain ⟨⟨column, s⟩, hcell⟩ :=
      List.exists_mem_of_ne_nil _ (List.isEmpty_eq_false_iff.1 (i.occupied columns hmem))
    have hstate : i.state ⟨line, column⟩ = some s := by
      rw [state, hcolumns, Option.bind_some]
      exact SortedMap.get?_eq_some_iff.2 hcell
    exact ⟨⟨line, column⟩, (h _).1 (by rw [hstate]; rfl), rfl⟩
  · rintro ⟨l, hl, rfl⟩
    obtain ⟨s, hs⟩ := Option.isSome_iff_exists.1 ((h l).2 hl)
    obtain ⟨columns, hcolumns, _⟩ := Option.bind_eq_some_iff.1 hs
    exact ⟨columns, hcolumns⟩

theorem locations_ascending (i : PositionIndex) :
    (i.toList.map Prod.fst).Pairwise Location.Before :=
  i.view.keys_ascending.imp Location.compare_eq_lt_iff.1

theorem state_finish (i : PositionIndex) (l : Location) :
    i.finish.2.state l = if i.state l = some .pending then some .notFound else i.state l := by
  rw [← get?_view, view_finish, SortedMap.get?_mapValues, get?_view]
  cases i.state l with
  | none => rfl
  | some s => by_cases h : s = .pending <;> simp [h]

theorem serves_resolve (h : i.Holds ls) (l : Location) {s : MatchState}
    (terminal : s.isTerminal = true) :
    Serves ls i (.resolve l s terminal) (.truth (i.resolve l s).1) (i.resolve l s).2 := by
  have hstate := state_resolve i l s
  by_cases hp : i.isPending l = true
  · have hpending := isPending_iff.1 hp
    have hrequested : l ∈ ls := (h l).1 (by rw [hpending]; rfl)
    have htrue : (i.resolve l s).1 = true := by rw [resolve, if_pos hp]
    rw [htrue]
    refine .resolved terminal hrequested hpending fun k => ?_
    rw [hstate, hp]
    simp only [and_true]
  · have hsame : i.resolve l s = (false, i) := by rw [resolve, if_neg hp]
    rw [hsame]
    exact .refused terminal fun hl => hp (isPending_iff.2 hl.2)

/-- An index that holds `ls` serves every operation as a write-once map of `ls` does. -/
theorem serves_perform (h : i.Holds ls) (op : Operation) :
    Serves ls i op (i.perform op).1 (i.perform op).2 := by
  cases op with
  | state l => exact .state l
  | isPending l => exact .isPending l
  | resolve l s terminal => exact serves_resolve h l terminal
  | finish =>
    refine .finish (i.pending_ascending.imp Location.compare_eq_lt_iff.1) ?_ i.state_finish
    intro l
    exact mem_pending.trans isPending_iff
  | toList =>
    exact .toList i.locations_ascending fun _ _ => mem_toList
  | size =>
    show Serves ls i .size (.count i.size) i
    rw [size_of_holds h]
    exact .size
  | isEmpty =>
    show Serves ls i .isEmpty (.truth i.isEmpty) i
    rw [isEmpty_of_holds h]
    exact .isEmpty

/-- A step leaves the state of a location as it is, or takes it from pending to a terminal
state. -/
theorem Serves.state_cases (h : Serves ls i op answer j) (l : Location) :
    j.state l = i.state l ∨
      i.state l = some .pending ∧ ∃ s, s.isTerminal = true ∧ j.state l = some s := by
  cases h with
  | state | isPending | refused | toList | size | isEmpty => exact .inl rfl
  | @resolved k s terminal _ requested pending cells =>
    by_cases hk : l = k
    · subst hk
      exact .inr ⟨pending, s, terminal, by rw [cells, if_pos rfl]⟩
    · exact .inl (by rw [cells, if_neg hk])
  | finish ascending pending cells =>
    by_cases hp : i.state l = some .pending
    · exact .inr ⟨hp, .notFound, rfl, by rw [cells, if_pos hp]⟩
    · exact .inl (by rw [cells, if_neg hp])

/-- A step keeps the set of locations. -/
theorem Serves.holds (h : Serves ls i op answer j) (hi : i.Holds ls) : j.Holds ls := by
  intro l
  rcases h.state_cases l with hsame | ⟨hpending, s, _, hs⟩
  · rw [hsame]
    exact hi l
  · rw [← hi l, hpending, hs]
    simp

/-- A location that is not pending keeps its state. -/
theorem Serves.state_of_not_pending (h : Serves ls i op answer j) {l : Location}
    (hl : i.state l ≠ some .pending) : j.state l = i.state l := by
  rcases h.state_cases l with hsame | ⟨hpending, _⟩
  · exact hsame
  · exact absurd hpending hl

end step

/-! ### Whole runs -/

section run

variable {ls : List Location}

/-- Every step of a run is served, between indices that hold `ls`. -/
theorem serves_of_mem_trace : ∀ {ops : List Operation} {i : PositionIndex}, i.Holds ls →
    ∀ t ∈ trace i ops, t.before.Holds ls ∧ Serves ls t.before t.operation t.answer t.after
  | [], _, _ => by simp [trace]
  | op :: ops, i, hi => by
      have hstep := serves_perform hi op
      rw [trace, List.forall_mem_cons]
      exact ⟨⟨hi, hstep⟩, serves_of_mem_trace (hstep.holds hi)⟩

theorem holds_after : ∀ (ops : List Operation) {i : PositionIndex}, i.Holds ls →
    (i.after ops).Holds ls
  | [], _, hi => hi
  | op :: ops, _, hi => holds_after ops ((serves_perform hi op).holds hi)

theorem state_after_of_not_pending {l : Location} : ∀ (ops : List Operation) {i : PositionIndex},
    i.Holds ls → i.state l ≠ some .pending → (i.after ops).state l = i.state l
  | [], _, _, _ => rfl
  | op :: ops, i, hi, hl => by
      have hstep := serves_perform hi op
      have hsame := hstep.state_of_not_pending hl
      have ih := state_after_of_not_pending ops (hstep.holds hi) (hsame ▸ hl)
      exact ih.trans hsame

/-- How often a location changes in a run. -/
def changes (i : PositionIndex) (ops : List Operation) (l : Location) : Nat :=
  ((trace i ops).filter (Step.changes l)).length

theorem changes_cons (i : PositionIndex) (op : Operation) (ops : List Operation) (l : Location) :
    i.changes (op :: ops) l =
      (if i.state l = (i.perform op).2.state l then 0 else 1) + (i.perform op).2.changes ops l := by
  unfold changes
  rw [trace, List.filter_cons]
  by_cases h : i.state l = (i.perform op).2.state l
  · simp [Step.changes, h]
  · simp [Step.changes, h, Nat.add_comm]

/-- A location that is not pending does not change any more. -/
theorem changes_of_not_pending {l : Location} : ∀ (ops : List Operation) {i : PositionIndex},
    i.Holds ls → i.state l ≠ some .pending → i.changes ops l = 0
  | [], _, _, _ => rfl
  | op :: ops, i, hi, hl => by
      have hstep := serves_perform hi op
      have hsame := hstep.state_of_not_pending hl
      have ih := changes_of_not_pending ops (hstep.holds hi) (hsame ▸ hl)
      rw [changes_cons, if_pos hsame.symm, ih]

/-- A location changes at most once. -/
theorem changes_le_one (l : Location) : ∀ (ops : List Operation) {i : PositionIndex},
    i.Holds ls → i.changes ops l ≤ 1
  | [], _, _ => Nat.zero_le 1
  | op :: ops, i, hi => by
      have hstep := serves_perform hi op
      have ih := changes_le_one l ops (hstep.holds hi)
      rw [changes_cons]
      rcases hstep.state_cases l with hsame | ⟨_, s, hs, hj⟩
      · rw [if_pos hsame.symm]
        omega
      · -- the state is terminal now, so it is not written again
        have hterminal : (i.perform op).2.state l ≠ some .pending := by
          rw [hj]
          intro he
          rw [Option.some.inj he] at hs
          exact absurd hs (by decide)
        have hrest := changes_of_not_pending ops (hstep.holds hi) hterminal
        split <;> omega

theorem state_finish_ne_pending (i : PositionIndex) (l : Location) :
    i.finish.2.state l ≠ some .pending := by
  rw [state_finish]
  split
  · simp
  · assumption

theorem finish_eq_nil_of_no_pending {i : PositionIndex} (h : ∀ l, i.state l ≠ some .pending) :
    i.finish.1 = [] := by
  rw [List.eq_nil_iff_forall_not_mem]
  intro l hl
  exact h l (isPending_iff.1 (mem_pending.1 hl))

/-- After the search has ended, whatever is done then, nothing is left to be found. -/
theorem finish_of_finished {i : PositionIndex} (hi : i.Holds ls) (ops : List Operation) :
    (i.finish.2.after ops).finish.1 = [] := by
  have hfinished : i.finish.2.Holds ls := (serves_perform hi .finish).holds hi
  refine finish_eq_nil_of_no_pending fun l => ?_
  rw [state_after_of_not_pending ops hfinished (i.state_finish_ne_pending l)]
  exact i.state_finish_ne_pending l

/-- The index is a write-once map.  It starts with the requested locations, all pending, and
after any operations it holds these locations, and their lines alone.  Every step is one of a
write-once map of them: it answers and leaves behind what `Serves` says.  A step that changes a
location takes it from pending to a terminal state, which happens at most once.  And once the
search has been ended, ending it again tells nothing, whatever was done in between. -/
theorem index_is_write_once (ls : List Location) (ops : List Operation) :
    (∀ l, (ofList ls).state l = if l ∈ ls then some .pending else none) ∧
    ((ofList ls).after ops).Holds ls ∧
    (∀ line, (((ofList ls).after ops).lines.get? line).isSome ↔ ∃ l ∈ ls, l.line = line) ∧
    (∀ t ∈ trace (ofList ls) ops,
      t.before.Holds ls ∧ t.after.Holds ls ∧ Serves ls t.before t.operation t.answer t.after ∧
      ∀ l, t.changes l = true →
        t.before.state l = some .pending ∧
          ∃ s, s.isTerminal = true ∧ t.after.state l = some s) ∧
    (∀ l, (ofList ls).changes ops l ≤ 1) ∧
    ∀ before later, ops = before ++ .finish :: later →
      ((ofList ls).after ops).finish.1 = [] := by
  have hls := holds_ofList ls
  have hafter := holds_after ops hls
  refine ⟨state_ofList ls, hafter, isSome_line_iff_of_holds hafter, ?_,
    fun l => changes_le_one l ops hls, ?_⟩
  · intro t ht
    obtain ⟨hbefore, hserves⟩ := serves_of_mem_trace hls t ht
    refine ⟨hbefore, hserves.holds hbefore, hserves, fun l hl => ?_⟩
    rcases hserves.state_cases l with hsame | hchanged
    · simp [Step.changes, hsame] at hl
    · exact hchanged
  · rintro before later rfl
    have hsplit : (ofList ls).after (before ++ .finish :: later) =
        ((ofList ls).after before).finish.2.after later := by
      rw [after, List.foldl_append]
      rfl
    rw [hsplit]
    exact finish_of_finished (holds_after before hls) later

/-- Requested locations with a repetition; three are on one line. -/
def requestedTwice : List Location := [⟨8, 3⟩, ⟨6, 3⟩, ⟨8, 1⟩, ⟨8, 3⟩]

/-- One location is resolved, a second time in vain, like one beside it that was not requested, and
the search is ended. -/
def resolvedTwice : List Operation :=
  [.resolve ⟨8, 3⟩ .found rfl, .resolve ⟨8, 3⟩ .ignored rfl, .resolve ⟨8, 2⟩ .found rfl, .finish,
    .toList, .size, .isEmpty]

/-- A location that is requested twice, and one that is resolved twice. -/
theorem repeated_request_is_written_once :
    (trace (ofList requestedTwice) resolvedTwice).map (·.answer) =
      [.truth true, .truth false, .truth false, .locations [⟨6, 3⟩, ⟨8, 1⟩],
        .cells [(⟨6, 3⟩, .notFound), (⟨8, 1⟩, .notFound), (⟨8, 3⟩, .found)], .count 3,
        .truth false] ∧
    ((ofList requestedTwice).after resolvedTwice).lines.keys = [6, 8] ∧
    (∃ t ∈ trace (ofList requestedTwice) resolvedTwice, t.changes ⟨8, 3⟩ = true ∧
      t.before.state ⟨8, 3⟩ = some .pending) ∧
    ((ofList requestedTwice).after resolvedTwice).finish.1 = [] := by
  obtain ⟨_, _, _, hsteps, _, hfinished⟩ := index_is_write_once requestedTwice resolvedTwice
  refine ⟨by decide, by decide, ?_,
    hfinished (resolvedTwice.take 3) [.toList, .size, .isEmpty] rfl⟩
  obtain ⟨t, ht, hchanges⟩ : ∃ t ∈ trace (ofList requestedTwice) resolvedTwice,
      t.changes ⟨8, 3⟩ = true := List.any_eq_true.1 (by decide)
  obtain ⟨_, _, _, hchanged⟩ := hsteps t ht
  exact ⟨t, ht, hchanges, (hchanged _ hchanges).1⟩

end run

end PositionIndex

end MessageCatalog
