import MessageCatalog.Proofs.Extraction

/-! # Every requested position is accounted for

The outcome of a file holds the requested locations of the file once each
(`positions_outcome_perm`): the sites that are looked at settle different locations, and a
location that no site settles comes in as not found.  Since the files of a catalog have different
paths, a catalog that an extraction gives holds every requested position exactly once
(`extraction_accounts_for_requests`), for any trees and any reporter. -/

namespace MessageCatalog

/-! ### Entries in a final state -/

namespace Entry

/-- The state of the entry is final, and it says which other fields are there. -/
structure IsFinal (e : Entry) : Prop where
  state : e.state = .found ∨ e.state = .notFound ∨ e.state = .ignored
  text : e.text.isSome ↔ e.state = .found
  comment : e.comment.isSome → e.state = .found

theorem isFinal_found (p : Position) (text : String) (comment : Option (List String)) :
    (found p text comment).IsFinal :=
  ⟨.inl rfl, by simp [found], fun _ => rfl⟩

theorem isFinal_notFound (p : Position) : (notFound p).IsFinal :=
  ⟨.inr (.inl rfl), by simp [notFound], by simp [notFound]⟩

theorem isFinal_ignored (p : Position) : (ignored p).IsFinal :=
  ⟨.inr (.inr rfl), by simp [ignored], by simp [ignored]⟩

end Entry

namespace Site

variable (a : Associator)

/-- The entry of a site is final and stands for the position of the site. -/
theorem settled?_spec {s : Site} {e : Entry} (h : s.settled? a = some e) :
    e.IsFinal ∧ e.position = s.position := by
  obtain rfl | ⟨text, comment, rfl⟩ := settled?_cases a h
  · exact ⟨Entry.isFinal_ignored _, rfl⟩
  · exact ⟨Entry.isFinal_found _ text comment, rfl⟩

/-! ### Each location is settled once -/

/-- Of the sites that are reached, those that settle their location have different ones. -/
theorem nodup_settled : ∀ (ss : List Site),
    (((reached a ss).filter (settles a)).map location).Nodup
  | [] => List.nodup_nil
  | s :: ss => by
      have ih := nodup_settled ss
      rw [reached]
      cases hs : s.settles a with
      | false => rw [List.filter_cons_of_neg (by simp [hs])]; exact ih
      | true =>
        rw [if_pos rfl, List.filter_cons_of_pos hs, List.map_cons, List.nodup_cons]
        refine ⟨?_, ?_⟩
        · intro h
          obtain ⟨t, ht, hl⟩ := List.mem_map.1 h
          have hne := (List.mem_filter.1 (List.mem_of_mem_filter ht)).2
          simp [hl] at hne
        · refine ih.sublist (List.Sublist.map _ ?_)
          exact List.filter_sublist.filter _

theorem position_entryOr (s : Site) : (s.entryOr a).position = s.position := by
  unfold entryOr
  cases h : s.settled? a with
  | none => rfl
  | some e => exact (settled?_spec a h).2

/-- The entries of sites are those of the sites that settle their location. -/
theorem filterMap_settled?_eq (ss : List Site) :
    ss.filterMap (settled? a) = (ss.filter (settles a)).map (entryOr a) := by
  induction ss with
  | nil => rfl
  | cons s ss ih =>
    rw [filterMap_settled?_cons, ih]
    cases h : s.settled? a with
    | none => rw [List.filter_cons_of_neg (by simp [settles, h])]; rfl
    | some e =>
      rw [List.filter_cons_of_pos (by simp [settles, h]), List.map_cons, entryOr, h]
      rfl

end Site

namespace SourceFile

variable (f : SourceFile) (a : Associator) (i : PositionIndex)

/-- The sites that are looked at settle the pending locations that are not missed. -/
theorem settled_perm : (((f.visits a i).filter (Site.settles a)).map Site.location).Perm
    (i.pending.filter (f.isSettled a)) := by
  refine (List.perm_ext_iff_of_nodup ?_ (i.pending_nodup.filter _)).2 ?_
  · refine (Site.nodup_settled a f.sites).sublist (List.Sublist.map _ ?_)
    exact List.filter_sublist.filter _
  · intro l
    rw [List.mem_filter, PositionIndex.mem_pending, isSettled, ← Site.any_reached,
      List.any_eq_true]
    constructor
    · intro h
      obtain ⟨s, hs, rfl⟩ := List.mem_map.1 h
      obtain ⟨hv, hset⟩ := List.mem_filter.1 hs
      obtain ⟨hr, hp⟩ := List.mem_filter.1 hv
      exact ⟨hp, s, hr, by simp [hset]⟩
    · rintro ⟨hp, s, hr, hs⟩
      obtain ⟨hset, hl⟩ := Bool.and_eq_true_iff.1 hs
      obtain rfl : s.location = l := by simpa using hl
      exact List.mem_map.2 ⟨s, List.mem_filter.2 ⟨List.mem_filter.2 ⟨hr, hp⟩, hset⟩, rfl⟩

/-- The outcome of a file holds each pending location once. -/
theorem positions_outcome_perm :
    ((f.outcome a i).map (·.position)).Perm (i.pending.map (⟨f.path, ·⟩)) := by
  have hset : ((f.visits a i).filterMap (Site.settled? a)).map (·.position) =
      (((f.visits a i).filter (Site.settles a)).map Site.location).map (⟨f.path, ·⟩) := by
    rw [Site.filterMap_settled?_eq, List.map_map, List.map_map]
    refine List.map_congr_left fun s hs => ?_
    rw [Function.comp_apply, Site.position_entryOr]
    exact position_of_mem_visits (List.mem_of_mem_filter hs)
  have hmissed : ((f.missed a i).map fun l => Entry.notFound ⟨f.path, l⟩).map (·.position) =
      (f.missed a i).map (⟨f.path, ·⟩) := by
    rw [List.map_map]
    rfl
  rw [outcome, List.map_append, hset, hmissed, ← List.map_append]
  refine List.Perm.map _ ?_
  exact ((f.settled_perm a i).append_right _).trans (List.filter_append_perm _ _)

theorem isFinal_of_mem_outcome {e : Entry} (h : e ∈ f.outcome a i) : e.IsFinal := by
  rcases List.mem_append.1 h with h | h
  · obtain ⟨s, _, hs⟩ := List.mem_filterMap.1 h
    exact (Site.settled?_spec a hs).1
  · obtain ⟨l, _, rfl⟩ := List.mem_map.1 h
    exact Entry.isFinal_notFound _

end SourceFile

/-! ### Catalogs -/

/-- The catalog holds exactly the given positions, once each, every entry under the path of its
own file and in a final state. -/
structure Catalog.AccountsFor (c : Catalog) (ps : List Position) : Prop where
  once : (c.all.map (·.position)).Nodup
  complete : ∀ p, p ∈ c.all.map (·.position) ↔ p ∈ ps
  filed : ∀ path entries, c.files.get? path = some entries →
    ∀ e ∈ entries, e.position.file = path
  final : ∀ e ∈ c.all, e.IsFinal

namespace Extraction

variable (a : Associator) (ps : List Position)

/-- The positions of the catalog are the pending ones of each file. -/
theorem positions_flatMap_outcome (requests : Requests) : ∀ (files : List SourceFile),
    ((files.flatMap fun f => f.outcome a (requests.index f.path)).map (·.position)).Perm
      (files.flatMap fun f => (requests.index f.path).pending.map (⟨f.path, ·⟩))
  | [] => List.Perm.nil
  | f :: files => by
      rw [List.flatMap_cons, List.flatMap_cons, List.map_append]
      exact (f.positions_outcome_perm a _).append (positions_flatMap_outcome requests files)

/-- Different locations of different files make different positions. -/
theorem nodup_flatMap_positions {α : Type} {path : α → String} {locations : α → List Location}
    {xs : List α} (hpaths : (xs.map path).Nodup) (hlocations : ∀ x ∈ xs, (locations x).Nodup) :
    (xs.flatMap fun x => (locations x).map (Position.mk (path x))).Nodup := by
  rw [List.nodup_flatMap]
  refine ⟨?_, ?_⟩
  · intro x hx
    refine (hlocations x hx).map ?_
    intro l k hlk
    exact (Position.mk.inj hlk).2
  · -- positions of two files differ in the path
    refine (List.pairwise_map.1 hpaths).imp ?_
    intro x y hxy p hx hy
    obtain ⟨l, _, rfl⟩ := List.mem_map.1 hx
    obtain ⟨k, _, hk⟩ := List.mem_map.1 hy
    exact hxy (Position.mk.inj hk).1.symm

theorem nodup_requested {files : List SourceFile} (h : (files.map (·.path)).Nodup)
    (requests : Requests) :
    (files.flatMap fun f => (requests.index f.path).pending.map (Position.mk f.path)).Nodup :=
  nodup_flatMap_positions h fun _ _ => PositionIndex.pending_nodup _

theorem mem_requested {files : List SourceFile}
    (h : files.map (·.path) = (Requests.ofList ps).paths) (p : Position) :
    p ∈ (files.flatMap fun f =>
      ((Requests.ofList ps).index f.path).pending.map (Position.mk f.path)) ↔ p ∈ ps := by
  rw [List.mem_flatMap]
  constructor
  · rintro ⟨f, _, hf⟩
    obtain ⟨l, hl, rfl⟩ := List.mem_map.1 hf
    rw [PositionIndex.mem_pending, Requests.isPending_index_ofList] at hl
    exact of_decide_eq_true hl
  · intro hp
    have hpath : p.file ∈ files.map (·.path) := by
      rw [h]
      exact Requests.mem_paths_ofList.2 ⟨p, hp, rfl⟩
    obtain ⟨f, hf, hfp⟩ := List.mem_map.1 hpath
    refine ⟨f, hf, List.mem_map.2 ⟨p.location, ?_, ?_⟩⟩
    · rw [PositionIndex.mem_pending, Requests.isPending_index_ofList, hfp]
      exact decide_eq_true hp
    · rw [hfp]

theorem extractWith_accountsFor {race : Race} {parse : String → Except Failure SourceFile}
    (hpath : ∀ p f, parse p = .ok f → f.path = p) {disk : Disk} {r r' : Reporter} {c : Catalog}
    (h : extractWith race parse disk a (.ofList ps) r = .ok (c, r')) : c.AccountsFor ps := by
  obtain ⟨files, _, hfiles, _, rfl⟩ := extractWith_eq_ok hpath h
  have hperm := positions_flatMap_outcome a (.ofList ps) files
  have hall := all_catalog a (.ofList ps) hfiles
  have hnodup : (files.map (·.path)).Nodup := by
    rw [hfiles]
    exact SortedMap.keys_nodup _
  refine ⟨?_, ?_, ?_, ?_⟩
  · rw [hall]
    exact hperm.nodup_iff.2 (nodup_requested hnodup _)
  · intro p
    rw [hall, hperm.mem_iff]
    exact mem_requested ps hfiles p
  · intro path entries hget e he
    rw [SortedMap.get?_eq_some_iff, entries_catalog a _ hfiles] at hget
    obtain ⟨f, _, hf⟩ := List.mem_map.1 hget
    obtain ⟨rfl, rfl⟩ := Prod.mk.inj hf
    have hpos := (f.positions_outcome_perm a _).mem_iff.1 (List.mem_map_of_mem he)
    obtain ⟨l, _, hl⟩ := List.mem_map.1 hpos
    rw [← hl]
  · intro e he
    rw [hall] at he
    obtain ⟨f, _, hf⟩ := List.mem_flatMap.1 he
    exact f.isFinal_of_mem_outcome a _ hf

/-- Exactly once: a catalog that is extracted, from disk or from given texts, accounts for
the requested positions: whatever the trees, comments, race and reporter are. -/
theorem extraction_accounts_for_requests (race : Race) (parser : Parser) (disk : Disk)
    (sources : SortedMap String String) (r r' : Reporter) (c : Catalog) :
    (extract race parser disk a (.ofList ps) r = .ok (c, r') → c.AccountsFor ps) ∧
    (extractSources race parser disk sources a (.ofList ps) r = .ok (c, r') → c.AccountsFor ps) :=
  ⟨extractWith_accountsFor a ps (path_parseFile parser disk),
    extractWith_accountsFor a ps (path_parseGiven parser disk sources)⟩

/-! ### Two calls that share a start

In the tree `sharedStart` two calls have argument lists that start at one place.  The first is
reported and leaves the location pending, the second settles it. -/

/-- A place on the first line. -/
def placeAt (n : Nat) : Go.Place := ⟨n, 1, n + 1⟩

/-- A node without children on the first line. -/
def leafAt (kind : Go.Kind) (start stop : Nat) : Go.Node :=
  .mk kind none (placeAt start) (placeAt stop) []

/-- A call on the first line of a function whose name is one letter. -/
def callAt (start stop : Nat) (arguments : List Go.Node) : Go.Node :=
  .mk .callExpression none (placeAt start) (placeAt stop)
    [.mk .argumentList (some .arguments) (placeAt (start + 1)) (placeAt stop) arguments]

/-- A tree of `A("x")` with two calls that share the start of their argument lists. -/
def sharedStart : Go.Node :=
  .mk .sourceFile none (placeAt 0) (placeAt 6)
    [callAt 0 6 [leafAt .identifier 2 5], callAt 0 6 [leafAt .interpretedStringLiteral 2 5]]

/-- A request with a repetition and a location without a call. -/
def sharedRequest : List Position := [⟨"a.go", 1, 2⟩, ⟨"a.go", 9, 9⟩, ⟨"a.go", 1, 2⟩]

/-- A reporter that has reported nothing, with a strict cache and a stream without a limit. -/
def newReporter : Reporter := .new .unlimited (.new false) fun _ => 1

theorem exists_ok_of_isOk {ε α β : Type} {x : Except ε (α × β)} (h : x.isOk = true) :
    ∃ y z, x = .ok (y, z) := by
  cases x with
  | error e => cases h
  | ok p => exact ⟨p.1, p.2, rfl⟩

theorem exists_ok_of_map {ε α β : Type} {x : Except ε α} {g : α → β} {y : β}
    (h : x.toOption.map g = some y) : ∃ z, x = .ok z ∧ g z = y := by
  cases x with
  | error e => cases h
  | ok z => exact ⟨z, rfl, Option.some.inj h⟩

/-- The requested positions in a tree with a shared start. -/
theorem extraction_accounts_for_shared_start :
    (∃ c r, extract .first (fun _ _ => .ok sharedStart) (fun _ => .ok "A(\"x\")") ⟨"", ""⟩
      (.ofList sharedRequest) newReporter = .ok (c, r) ∧ c.AccountsFor sharedRequest) ∧
    (∃ c r, extractSources .first (fun _ _ => .ok sharedStart) (fun _ => .error .missing)
      (.insert ∅ "a.go" "A(\"x\")") ⟨"", ""⟩ (.ofList sharedRequest) newReporter = .ok (c, r) ∧
        c.AccountsFor sharedRequest) := by
  constructor
  · obtain ⟨c, r, h⟩ := exists_ok_of_isOk (x := extract .first (fun _ _ => .ok sharedStart)
      (fun _ => .ok "A(\"x\")") ⟨"", ""⟩ (.ofList sharedRequest) newReporter) (by decide +kernel)
    exact ⟨c, r, h, (extraction_accounts_for_requests _ _ _ _ _ ∅ _ _ _).1 h⟩
  · obtain ⟨c, r, h⟩ := exists_ok_of_isOk (x := extractSources .first (fun _ _ => .ok sharedStart)
      (fun _ => .error .missing) (.insert ∅ "a.go" "A(\"x\")") ⟨"", ""⟩ (.ofList sharedRequest)
      newReporter) (by decide +kernel)
    exact ⟨c, r, h, (extraction_accounts_for_requests _ _ _ _ _ _ _ _ _).2 h⟩

end Extraction

end MessageCatalog
