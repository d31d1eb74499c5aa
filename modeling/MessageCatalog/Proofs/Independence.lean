import MessageCatalog.Proofs.Journal

/-! # Call sites do not influence one another

Which sites of a file are reached does not depend on what is requested, and a request only picks
from them.  So a search for fewer locations looks at the same sites, less those that are not
requested, and gives the same entries (`visits_restrict`, `outcome_restrict`).  Grouping by file
keeps this: two extractions, one for a part of the positions of the other, differ exactly by the
positions left out (`call_sites_do_not_interfere`). -/

namespace MessageCatalog

/-! ### One file -/

namespace PositionIndex

/-- The pending locations of one index are those of another that `p` accepts. -/
def Restricts (i j : PositionIndex) (p : Location → Bool) : Prop :=
  ∀ l, i.isPending l = (j.isPending l && p l)

theorem Restricts.pending {i j : PositionIndex} {p : Location → Bool} (h : i.Restricts j p) :
    i.pending = j.pending.filter p := by
  refine SortedMap.eq_of_ascending id i.pending_ascending (j.pending_ascending.filter _) ?_
  intro l
  rw [List.mem_filter, mem_pending, mem_pending, h l, Bool.and_eq_true]

end PositionIndex

namespace SourceFile

variable (f : SourceFile) (a : Associator) {i j : PositionIndex} {p : Location → Bool}

theorem visits_restrict (h : i.Restricts j p) :
    f.visits a i = (f.visits a j).filter fun s => p s.location := by
  unfold visits Site.visits
  rw [List.filter_filter]
  refine List.filter_congr fun s _ => ?_
  rw [h, Bool.and_comm]

theorem missed_restrict (h : i.Restricts j p) : f.missed a i = (f.missed a j).filter p := by
  unfold missed
  rw [h.pending, List.filter_filter, List.filter_filter]
  refine List.filter_congr fun l _ => ?_
  rw [Bool.and_comm]

/-- The outcome for a part of the locations is that part of the outcome. -/
theorem outcome_restrict (h : i.Restricts j p) :
    f.outcome a i = (f.outcome a j).filter fun e => p e.position.location := by
  unfold outcome
  rw [List.filter_append, f.visits_restrict a h, f.missed_restrict a h,
    Site.filterMap_settled?_eq, Site.filterMap_settled?_eq, List.filter_map, List.filter_map,
    List.filter_filter, List.filter_filter]
  congr 2
  refine List.filter_congr fun s _ => ?_
  rw [Function.comp_apply, Site.position_entryOr, Bool.and_comm]
  rfl

end SourceFile

/-! ### All files -/

namespace Requests

/-- Fewer requested positions restrict the index of every path. -/
theorem restricts_index {R S : List Position} (h : ∀ p ∈ R, p ∈ S) (path : String) :
    ((ofList R).index path).Restricts ((ofList S).index path) fun l => ⟨path, l⟩ ∈ R := by
  intro l
  rw [isPending_index_ofList, isPending_index_ofList]
  by_cases hR : (⟨path, l⟩ : Position) ∈ R
  · simp [hR, h _ hR]
  · simp [hR]

theorem paths_restrict {R S : List Position} (h : ∀ p ∈ R, p ∈ S) :
    (ofList R).paths = (ofList S).paths.filter (· ∈ (ofList R).paths) := by
  refine SortedMap.eq_of_ascending id (SortedMap.keys_ascending _)
    ((SortedMap.keys_ascending _).filter _) ?_
  intro path
  rw [List.mem_filter, decide_eq_true_iff]
  refine ⟨fun hR => ⟨?_, hR⟩, fun hS => hS.2⟩
  obtain ⟨p, hp, hfile⟩ := mem_paths_ofList.1 hR
  exact mem_paths_ofList.2 ⟨p, h p hp, hfile⟩

end Requests

namespace Extraction

variable {parse : String → Except Failure SourceFile} {R S : List Position}

/-- Parsing the files of fewer positions gives these files. -/
theorem mapM_restrict (hpath : ∀ p f, parse p = .ok f → f.path = p) (h : ∀ p ∈ R, p ∈ S)
    {files : List SourceFile} (hS : (Requests.ofList S).paths.mapM parse = .ok files) :
    (Requests.ofList R).paths.mapM parse =
      .ok (files.filter fun f => f.path ∈ (Requests.ofList R).paths) := by
  obtain ⟨hall, rfl⟩ := mapM_eq_ok_iff.1 hS
  have hsub := Requests.paths_restrict h
  rw [mapM_of_parsed]
  · conv_lhs => rw [hsub]
    rw [List.filter_filterMap, List.filterMap_filter]
    congr 1
    refine List.filterMap_congr fun p hp => ?_
    obtain ⟨f, hf⟩ := hall p hp
    rw [hf]
    simp only [Except.toOption, Option.filter_some, hpath p f hf, decide_eq_true_eq]
  · intro p hp
    rw [hsub] at hp
    exact hall p (List.mem_of_mem_filter hp)

/-- Files without a requested position contribute nothing. -/
theorem flatMap_requested {β : Type} {requests : Requests} (g : SourceFile → List β)
    (hg : ∀ f, f.path ∉ requests.paths → g f = []) : ∀ (files : List SourceFile),
    (files.filter fun f => f.path ∈ requests.paths).flatMap g = files.flatMap g
  | [] => rfl
  | f :: files => by
      rw [List.filter_cons, List.flatMap_cons, ← flatMap_requested g hg files]
      split
      · rw [List.flatMap_cons]
      · rename_i h
        rw [hg f (by simpa using h), List.nil_append]

/-- The sites that are looked at for fewer positions. -/
theorem visited_restrict (a : Associator) (h : ∀ p ∈ R, p ∈ S) (files : List SourceFile) :
    visited a (.ofList R) (files.filter fun f => f.path ∈ (Requests.ofList R).paths) =
      (visited a (.ofList S) files).filter (·.position ∈ R) := by
  unfold visited
  rw [flatMap_requested, List.filter_flatMap]
  · refine List.flatMap_congr fun f _ => ?_
    rw [f.visits_restrict a (Requests.restricts_index h f.path)]
    refine List.filter_congr fun s hs => ?_
    rw [SourceFile.position_of_mem_visits hs]
  · intro f hf
    rw [Requests.index_of_not_mem_paths hf, f.visits_empty]

/-- The entries for fewer positions. -/
theorem outcomes_restrict (a : Associator) (h : ∀ p ∈ R, p ∈ S) (files : List SourceFile) :
    ((files.filter fun f => f.path ∈ (Requests.ofList R).paths).flatMap fun f =>
        f.outcome a ((Requests.ofList R).index f.path)) =
      (files.flatMap fun f => f.outcome a ((Requests.ofList S).index f.path)).filter
        (·.position ∈ R) := by
  rw [flatMap_requested, List.filter_flatMap]
  · refine List.flatMap_congr fun f _ => ?_
    rw [f.outcome_restrict a (Requests.restricts_index h f.path)]
    refine List.filter_congr fun e he => ?_
    have hpos := (f.positions_outcome_perm a _).mem_iff.1 (List.mem_map_of_mem he)
    obtain ⟨l, _, hl⟩ := List.mem_map.1 hpos
    rw [← hl]
  · intro f hf
    rw [Requests.index_of_not_mem_paths hf, f.outcome_empty]

/-! ### Two extractions -/

/-- The sites that an extraction looks at, given how a path is parsed. -/
def lookedAt (parse : String → Except Failure SourceFile) (a : Associator)
    (requests : Requests) : List Site :=
  visited a requests (requests.paths.filterMap fun p => (parse p).toOption)

/-- The second of two extractions, which looked at some sites, is the first one's part at the
positions of `R`: it has those entries, and it wrote those reports, in the same order. -/
structure IsPart (a : Associator) (R : List Position) (r : Reporter) (looked : List Site)
    (whole part : Catalog × Reporter) : Prop where
  entries : part.1.all = whole.1.all.filter (·.position ∈ R)
  wrote : whole.2.Wrote (Site.reports a r looked)
  wrotePart : part.2.Wrote (Site.reports a r (looked.filter (·.position ∈ R)))

/-- Independence: if an extraction for `S` succeeds, with a fresh reporter, then so does one
for a part `R` of `S` from the same sources, under any race, and it is the part of the larger one
at `R`.
Extracting from disk is the case without given texts (`extract_eq_extractSources`). -/
theorem call_sites_do_not_interfere (race race' : Race) (parser : Parser) (disk : Disk)
    (sources : SortedMap String String) (a : Associator) (R S : List Position) (r rS : Reporter)
    (cS : Catalog) (hsub : ∀ p ∈ R, p ∈ S) (hr : r.IsFresh)
    (hS : extractSources race parser disk sources a (.ofList S) r = .ok (cS, rS)) :
    ∃ cR rR, extractSources race' parser disk sources a (.ofList R) r = .ok (cR, rR) ∧
      IsPart a R r (lookedAt (parseGiven parser disk sources) a (.ofList S)) (cS, rS)
        (cR, rR) := by
  have hpath := path_parseGiven parser disk sources
  obtain ⟨files, hparsed, hfiles, hfail, hwrote, rfl⟩ := extractWith_eq_ok_of_fresh hpath hr hS
  have hlooked : lookedAt (parseGiven parser disk sources) a (.ofList S) =
      visited a (.ofList S) files := by
    rw [lookedAt, ← (mapM_eq_ok_iff.1 hparsed).2]
  have hparsedR := mapM_restrict hpath hsub hparsed
  have hfilesR := paths_of_mapM hpath hparsedR
  have hvisited := visited_restrict a hsub files
  -- the larger extraction met no failure, so the smaller one meets none
  have hfailR : Site.firstFailure? a (visited a (.ofList R)
      (files.filter fun f => f.path ∈ (Requests.ofList R).paths)) = none := by
    rw [hvisited, Site.firstFailure?_eq_none_iff]
    intro s hs
    exact Site.firstFailure?_eq_none_iff.1 hfail s (List.mem_of_mem_filter hs)
  obtain ⟨rR, hR, hwroteR⟩ := buildCatalog_of_no_failure disk a hr hfilesR hfailR
  rw [hlooked]
  refine ⟨insertFiles a (.ofList R) .empty
    (files.filter fun f => f.path ∈ (Requests.ofList R).paths), rR, ?_, ?_, hwrote, ?_⟩
  · rw [extractSources, extractWith, (Race.gather_eq_ok_iff race').2 hparsedR]
    exact hR
  · rw [all_catalog a _ hfilesR, all_catalog a _ hfiles]
    exact outcomes_restrict a hsub files
  · rw [← hvisited]
    exact hwroteR

/-- Two files with the tree `sharedStart`; the part of the request is in the second. -/
theorem shared_starts_do_not_interfere :
    ∃ cS rS cR rR,
      extractSources .first (fun _ _ => .ok sharedStart) (fun _ => .ok "A(\"x\")") ∅ ⟨"", ""⟩
        (.ofList [⟨"b.go", 1, 2⟩, ⟨"a.go", 1, 2⟩, ⟨"b.go", 7, 1⟩]) newReporter = .ok (cS, rS) ∧
      extractSources .first (fun _ _ => .ok sharedStart) (fun _ => .ok "A(\"x\")") ∅ ⟨"", ""⟩
        (.ofList [⟨"b.go", 1, 2⟩]) newReporter = .ok (cR, rR) ∧
      IsPart ⟨"", ""⟩ [⟨"b.go", 1, 2⟩] newReporter
        (lookedAt (parseGiven (fun _ _ => .ok sharedStart) (fun _ => .ok "A(\"x\")") ∅) ⟨"", ""⟩
          (.ofList [⟨"b.go", 1, 2⟩, ⟨"a.go", 1, 2⟩, ⟨"b.go", 7, 1⟩])) (cS, rS) (cR, rR) := by
  obtain ⟨cS, rS, hS⟩ := exists_ok_of_isOk (x := extractSources .first (fun _ _ => .ok sharedStart)
    (fun _ => .ok "A(\"x\")") ∅ ⟨"", ""⟩
    (.ofList [⟨"b.go", 1, 2⟩, ⟨"a.go", 1, 2⟩, ⟨"b.go", 7, 1⟩]) newReporter) (by decide +kernel)
  obtain ⟨cR, rR, hR, hpart⟩ := call_sites_do_not_interfere _ .first _ _ _ _ [⟨"b.go", 1, 2⟩] _
    newReporter rS cS (by simp) newReporter_isFresh hS
  exact ⟨cS, rS, cR, rR, hS, hR, hpart⟩

end Extraction

end MessageCatalog
