import Mathlib.Data.List.Dedup
import Mathlib.Data.List.Perm.Subperm
import MessageCatalog.Proofs.Journal
import MessageCatalog.Proofs.Reordering
import MessageCatalog.Proofs.Template

/-! # The summary of a run adds up

The requested positions are counted without repetitions (`Requests.size_ofList`), and the catalog of
an extraction holds an entry for each, so the counts of its states sum up to them.  Diagnostics are
counted when they are reported: once for every site that is looked at and left out, which gives an
ignored entry, and once for every site with a problem (`Site.length_reports`).  Where calls start at
different places a site with a problem has a location of its own that is not found. -/

namespace MessageCatalog

/-! ### Counting requests -/

namespace Requests

/-- The requested positions, file by file. -/
def positions (r : Requests) : List Position :=
  r.files.entries.flatMap fun e => e.2.keys.map (Position.mk e.1)

theorem length_positions (r : Requests) : r.positions.length = r.size := by
  unfold positions SortedMap.keys
  simp only [List.map_map]
  exact r.files.length_flatMap_entries fun path e => Position.mk path e.1

theorem mem_positions {r : Requests} {p : Position} :
    p ∈ r.positions ↔ p.location ∈ r.locations p.file := by
  unfold positions locations
  rw [List.mem_flatMap]
  constructor
  · rintro ⟨⟨path, locations⟩, he, hp⟩
    obtain ⟨l, hl, rfl⟩ := List.mem_map.1 hp
    rw [SortedMap.get?_eq_some_iff.2 he]
    exact hl
  · intro h
    cases hget : r.files.get? p.file with
    | none =>
      rw [hget] at h
      cases h
    | some locations =>
      rw [hget] at h
      refine ⟨(p.file, locations), SortedMap.get?_eq_some_iff.1 hget, ?_⟩
      exact List.mem_map.2 ⟨p.location, h, rfl⟩

theorem nodup_positions (r : Requests) : r.positions.Nodup :=
  Extraction.nodup_flatMap_positions r.files.keys_nodup fun e _ => e.2.keys_nodup

/-- Requests count positions without repetitions. -/
theorem size_ofList (ps : List Position) : (ofList ps).size = ps.dedup.length := by
  have hperm : (ofList ps).positions.Perm ps.dedup := by
    refine (List.perm_ext_iff_of_nodup (nodup_positions _) ps.nodup_dedup).2 fun p => ?_
    rw [mem_positions, mem_locations_ofList, List.mem_dedup]
  rw [← length_positions, hperm.length_eq]

/-- They count files without repetitions as well. -/
theorem length_paths_ofList (ps : List Position) :
    (ofList ps).paths.length = (ps.map (·.file)).dedup.length := by
  have hperm : (ofList ps).paths.Perm (ps.map (·.file)).dedup := by
    refine (List.perm_ext_iff_of_nodup (SortedMap.keys_nodup _) (List.nodup_dedup _)).2 ?_
    intro path
    rw [← paths, mem_paths_ofList, List.mem_dedup, List.mem_map]
  exact hperm.length_eq

end Requests

/-! ### Counting entries -/

namespace Summary

/-- Entries in a final state are counted for one of the three states. -/
theorem count_states : ∀ {es : List Entry}, (∀ e ∈ es, e.IsFinal) →
    (es.filter (·.state = .found)).length + (es.filter (·.state = .notFound)).length +
      (es.filter (·.state = .ignored)).length = es.length
  | [], _ => rfl
  | e :: es, h => by
      rw [List.forall_mem_cons] at h
      have ih := count_states h.2
      rw [List.length_cons]
      rcases h.1.state with hs | hs | hs
      all_goals
        simp only [List.filter_cons, hs, decide_true, decide_false, reduceCtorEq, if_true,
          Bool.false_eq_true, if_false, List.length_cons]
        omega

end Summary

theorem Catalog.AccountsFor.length_all {c : Catalog} {ps : List Position} (h : c.AccountsFor ps) :
    c.all.length = ps.dedup.length := by
  have hperm : (c.all.map (·.position)).Perm ps.dedup := by
    refine (List.perm_ext_iff_of_nodup h.once ps.nodup_dedup).2 fun p => ?_
    rw [h.complete, List.mem_dedup]
  rw [← hperm.length_eq, List.length_map]

/-- The blocks of a template. -/
def Catalog.blocks (c : Catalog) (sort : Bool) : List String :=
  (c.listed sort).filterMap Entry.block

theorem Catalog.template_eq (c : Catalog) (sort : Bool) :
    c.template sort = String.join ((c.blocks sort).map (· ++ "\n")) := by
  rw [template, blocks, List.map_filterMap]

/-- Of the entries of a catalog in final states, those found are rendered. -/
theorem Catalog.length_rendered {c : Catalog} (h : ∀ e ∈ c.all, e.IsFinal) (sort : Bool) :
    (c.rendered sort).length = Summary.count c .found := by
  rw [(c.rendered_perm sort).length_eq, Summary.count]
  congr 1
  refine List.filter_congr fun e he => ?_
  have htext := (h e he).text
  simp only [htext, and_self]

theorem Catalog.length_blocks (c : Catalog) (sort : Bool) :
    (c.blocks sort).length = (c.rendered sort).length := by
  unfold blocks rendered
  induction c.listed sort with
  | nil => rfl
  | cons e es ih =>
    rw [List.filterMap_cons, Entry.block, Entry.msgid]
    cases ht : e.text with
    | none =>
      rw [List.filter_cons_of_neg (by simp [ht])]
      exact ih
    | some text =>
      rw [List.filter_cons_of_pos (by simp [ht]), List.length_cons, ← ih]
      rfl

/-! ### Counting diagnostics -/

/-- The call has no message, which is reported. -/
def Verdict.isProblem : Verdict → Bool
  | problem _ => true
  | ignored _ | found _ _ | failure _ => false

namespace Site

/-- Every site that is left out and every one with a problem is reported once. -/
theorem length_reports (a : Associator) (r : Reporter) : ∀ ss : List Site,
    (reports a r ss).length =
      ((ss.filterMap (settled? a)).filter (·.state = .ignored)).length +
        (ss.filter fun s => (s.verdict a).isProblem).length
  | [] => rfl
  | s :: ss => by
      have ih := length_reports a r ss
      unfold reports at ih ⊢
      rw [List.filterMap_cons, List.filterMap_cons, report?, settled?, List.filter_cons]
      cases hv : s.verdict a with
      | ignored d =>
        show _ + 1 = ((ss.filterMap (settled? a)).filter (·.state = .ignored)).length + 1 +
          (ss.filter fun s => (s.verdict a).isProblem).length
        omega
      | problem d =>
        show _ + 1 = ((ss.filterMap (settled? a)).filter (·.state = .ignored)).length +
          ((ss.filter fun s => (s.verdict a).isProblem).length + 1)
        omega
      | found text comment =>
        exact ih
      | failure e => exact ih

end Site

namespace SourceFile

variable (f : SourceFile) (a : Associator) (i : PositionIndex)

/-- The ignored entries of a file are those of the sites that are looked at. -/
theorem filter_ignored_outcome : (f.outcome a i).filter (·.state = .ignored) =
    ((f.visits a i).filterMap (Site.settled? a)).filter (·.state = .ignored) := by
  have hmissed : ((f.missed a i).map fun l => Entry.notFound ⟨f.path, l⟩).filter
      (·.state = .ignored) = [] := by
    rw [List.filter_eq_nil_iff]
    intro e he
    obtain ⟨l, _, rfl⟩ := List.mem_map.1 he
    simp [Entry.notFound]
  rw [outcome, List.filter_append, hmissed, List.append_nil]

theorem length_missed_le :
    (f.missed a i).length ≤ ((f.outcome a i).filter (·.state = .notFound)).length := by
  have hmissed : ((f.missed a i).map fun l => Entry.notFound ⟨f.path, l⟩).filter
      (·.state = .notFound) = (f.missed a i).map fun l => Entry.notFound ⟨f.path, l⟩ := by
    rw [List.filter_eq_self]
    intro e he
    obtain ⟨l, _, rfl⟩ := List.mem_map.1 he
    rfl
  rw [outcome, List.filter_append, List.length_append, hmissed, List.length_map]
  exact Nat.le_add_left _ _

variable {f}

/-- Where calls start at different places, each site with a problem has a location of its own that
is not found. -/
theorem length_problems_le (hd : f.starts.Nodup) :
    ((f.visits a i).filter fun s => (s.verdict a).isProblem).length ≤
      ((f.outcome a i).filter (·.state = .notFound)).length := by
  have hnodup : (((f.visits a i).filter fun s => (s.verdict a).isProblem).map
      Site.location).Nodup := by
    rw [visits_of_nodup hd]
    refine hd.sublist (List.Sublist.map _ ?_)
    exact List.filter_sublist.trans List.filter_sublist
  have hmissed : ((f.visits a i).filter fun s => (s.verdict a).isProblem).map Site.location ⊆
      f.missed a i := by
    intro l hl
    obtain ⟨s, hs, rfl⟩ := List.mem_map.1 hl
    obtain ⟨hvisit, hproblem⟩ := List.mem_filter.1 hs
    obtain ⟨hsite, hpending⟩ := mem_visits hvisit
    refine List.mem_filter.2 ⟨PositionIndex.mem_pending.2 hpending, ?_⟩
    rw [Bool.not_eq_true', isSettled, List.any_eq_false]
    intro t ht hsettles
    obtain ⟨hset, hloc⟩ := Bool.and_eq_true_iff.1 hsettles
    -- the only site at the location is the one with the problem, which settles nothing
    obtain rfl : t = s := List.inj_on_of_nodup_map hd ht hsite (by simpa using hloc)
    unfold Site.settles Site.settled? at hset
    cases hv : t.verdict a with
    | problem d =>
      rw [hv] at hset
      cases hset
    | ignored d =>
      rw [hv] at hproblem
      cases hproblem
    | found text comment =>
      rw [hv] at hproblem
      cases hproblem
    | failure e =>
      rw [hv] at hproblem
      cases hproblem
  calc ((f.visits a i).filter fun s => (s.verdict a).isProblem).length
      = (((f.visits a i).filter fun s => (s.verdict a).isProblem).map Site.location).length :=
        (List.length_map _).symm
    _ ≤ (f.missed a i).length := (List.subperm_of_subset hnodup hmissed).length_le
    _ ≤ ((f.outcome a i).filter (·.state = .notFound)).length := f.length_missed_le a i

end SourceFile

namespace Extraction

/-- The diagnostics of a search through files are its ignored entries and the sites with a
problem. -/
theorem length_reports_visited (a : Associator) (r : Reporter) (requests : Requests)
    (files : List SourceFile) :
    (Site.reports a r (visited a requests files)).length =
      ((files.flatMap fun f => f.outcome a (requests.index f.path)).filter
        (·.state = .ignored)).length +
        ((visited a requests files).filter fun s => (s.verdict a).isProblem).length := by
  have hignored : (files.flatMap fun f => f.outcome a (requests.index f.path)).filter
      (·.state = .ignored) =
        ((visited a requests files).filterMap (Site.settled? a)).filter (·.state = .ignored) := by
    rw [visited, List.filterMap_flatMap, List.filter_flatMap, List.filter_flatMap]
    exact List.flatMap_congr fun f _ => f.filter_ignored_outcome a _
  rw [hignored, Site.length_reports]

theorem length_problems_visited_le (a : Associator) (requests : Requests) :
    ∀ {files : List SourceFile}, (∀ f ∈ files, f.starts.Nodup) →
      ((visited a requests files).filter fun s => (s.verdict a).isProblem).length ≤
        ((files.flatMap fun f => f.outcome a (requests.index f.path)).filter
          (·.state = .notFound)).length
  | [], _ => Nat.le_refl 0
  | f :: files, h => by
      rw [List.forall_mem_cons] at h
      have hf := f.length_problems_le a (requests.index f.path) h.1
      have ih := length_problems_visited_le a requests h.2
      rw [visited] at ih ⊢
      rw [List.flatMap_cons, List.flatMap_cons, List.filter_append, List.filter_append,
        List.length_append, List.length_append]
      omega

/-- The diagnostics of an extraction with a fresh reporter cover its ignored entries and, where
calls start at different places, no more than the entries without a message. -/
theorem reported_bounds {race : Race} {parse : String → Except Failure SourceFile}
    (hpath : ∀ p f, parse p = .ok f → f.path = p) {disk : Disk} {a : Associator}
    {requests : Requests} {r r' : Reporter} {c : Catalog} (hr : r.IsFresh)
    (h : extractWith race parse disk a requests r = .ok (c, r')) :
    Summary.count c .ignored ≤ r'.reported ∧
      ((∀ path ∈ requests.paths, ∀ f, parse path = .ok f → f.starts.Nodup) →
        r'.reported ≤ Summary.count c .ignored + Summary.count c .notFound) := by
  obtain ⟨files, hparsed, hfiles, _, hwrote, rfl⟩ := extractWith_eq_ok_of_fresh hpath hr h
  have hreported := hwrote.count.trans (length_reports_visited a r requests files)
  unfold Summary.count
  rw [all_catalog a requests hfiles]
  constructor
  · omega
  · intro hstarts
    have hnodup : ∀ f ∈ files, f.starts.Nodup := by
      intro f hf
      obtain ⟨path, hmem, hparse⟩ := (mem_iff_of_mapM hparsed f).1 hf
      exact hstarts path hmem f hparse
    have hproblems := length_problems_visited_le a requests hnodup
    omega

end Extraction

/-! ### Summaries of runs -/

/-- The counts of a run add up: with each other, and with the call sites that were collected and
the positions of those in files that are not excluded. -/
structure Summary.AddsUp (s : Summary) (excludes : String → Bool) (sites : List CallSite)
    (kept : List Position) : Prop where
  states : s.found + s.notFound + s.ignored = s.callSites
  callSites : s.callSites = kept.dedup.length
  files : s.files = (kept.map (·.file)).dedup.length
  excluded : s.excluded = (sites.filter (Session.isIn excludes)).length
  total_le : s.excluded + s.callSites ≤ sites.length
  total_eq_iff : s.excluded + s.callSites = sites.length ↔ kept.Nodup
  ignored_le : s.ignored ≤ s.diagnostics

theorem length_dedup_eq_iff {α : Type} [DecidableEq α] {l : List α} :
    l.dedup.length = l.length ↔ l.Nodup := by
  constructor
  · intro h
    rw [← List.dedup_eq_self]
    exact (List.dedup_sublist l).eq_of_length h
  · intro h
    rw [h.dedup]

namespace Session

variable {w : World Id} {parser : Parser} {width : Char → Nat} {a : Arguments}

/-- The call sites that are collected are excluded or kept. -/
theorem length_sites {excludes : String → Bool} {sites : List CallSite} {ps : List Position}
    (h : positionsOf sites = .ok ps) :
    (sites.filter (isIn excludes)).length + (kept excludes ps).length = sites.length := by
  have hsites : ps.length = sites.length := length_of_mapM (positionsOf_eq_ok_iff.1 h)
  have hps : ps.length = (ps.filter fun p => excludes p.file).length +
      (ps.filter fun p => !excludes p.file).length :=
    List.length_eq_length_filter_add fun p : Position => excludes p.file
  rw [← length_excluded h, kept]
  omega

theorem addsUp_ofCatalog {excludes : String → Bool} {sites : List CallSite} {ps : List Position}
    (hps : positionsOf sites = .ok ps) {c : Catalog} (hc : c.AccountsFor (kept excludes ps))
    {diagnostics : Nat} (hignored : Summary.count c .ignored ≤ diagnostics) :
    (Summary.ofCatalog (chosen excludes ps).requests (chosen excludes ps).excluded c
      diagnostics).AddsUp excludes sites (kept excludes ps) := by
  have hsize : (Requests.ofList (kept excludes ps)).size = (kept excludes ps).dedup.length :=
    Requests.size_ofList _
  have hlength : (sites.filter (isIn excludes)).length + (kept excludes ps).length =
      sites.length := length_sites hps
  have hexcluded : (chosen excludes ps).excluded = (sites.filter (isIn excludes)).length :=
    length_excluded hps
  have hdedup : (kept excludes ps).dedup.length ≤ (kept excludes ps).length :=
    (List.dedup_sublist _).length_le
  refine ⟨?_, hsize, Requests.length_paths_ofList _, hexcluded, ?_, ?_, hignored⟩
  · show Summary.count c .found + Summary.count c .notFound + Summary.count c .ignored =
      (Requests.ofList (kept excludes ps)).size
    rw [hsize, ← hc.length_all]
    exact Summary.count_states hc.final
  · show (chosen excludes ps).excluded + (Requests.ofList (kept excludes ps)).size ≤ _
    omega
  · show (chosen excludes ps).excluded + (Requests.ofList (kept excludes ps)).size = _ ↔ _
    rw [← length_dedup_eq_iff]
    omega

/-- The product of a run, with what it was made from: the options and call sites of the run, the
positions of these, and the extraction of the positions that are kept. -/
structure Tallied (w : World Id) (parser : Parser) (width : Char → Nat) (a : Arguments)
    (product : Product) (options : Options) (sites : List CallSite) (ps : List Position)
    (catalog : Catalog) (reporter : Reporter) : Prop where
  collects : Collects w a options sites
  positions : (sites.mapM fun site => Position.parse site.position) = .ok ps
  extracted : Extraction.extract w.race parser
    (readFiles w (Requests.ofList (kept options.excludes ps)).paths) options.associator
    (.ofList (kept options.excludes ps)) (.new .unlimited (.new false) width) =
      .ok (catalog, reporter)
  template : product.template = catalog.template options.sort
  /-- The template is the blocks of the messages, as many as were found, and reads as so many. -/
  blocks : product.template = String.join ((catalog.blocks options.sort).map (· ++ "\n"))
  found : product.summary.found = (catalog.blocks options.sort).length
  read : (Template.read? product.template).map List.length = some product.summary.found
  addsUp : product.summary.AddsUp options.excludes sites (kept options.excludes ps)
  diagnostics_le :
    (∀ path ∈ (Requests.ofList (kept options.excludes ps)).paths, ∀ f,
      Extraction.parseFile parser (readFiles w (Requests.ofList (kept options.excludes ps)).paths)
        path = .ok f → f.starts.Nodup) →
      product.summary.diagnostics ≤ product.summary.ignored + product.summary.notFound

/-- A product is made from an extraction, and its summary counts what this did. -/
theorem exists_tallied {product : Product} (h : produced w parser width a = .ok product) :
    ∃ options sites ps catalog reporter,
      Tallied w parser width a product options sites ps catalog reporter := by
  unfold produced at h
  obtain ⟨⟨options, s⟩, hprepared, h⟩ := bind_eq_ok h
  obtain ⟨sites, ps, hcollects, hps, rfl⟩ := collects_of_prepared hprepared
  dsimp only at h
  cases hx : extracted w parser width options.associator (chosen options.excludes ps) with
  | error e =>
    rw [hx] at h
    cases h
  | ok x =>
    obtain ⟨catalog, reporter⟩ := x
    rw [hx] at h
    cases h
    have hpath := Extraction.path_parseFile parser
      (readFiles w (Requests.ofList (kept options.excludes ps)).paths)
    have hparsed := positionsOf_eq_ok_iff.1 hps
    have haccounts : catalog.AccountsFor (kept options.excludes ps) :=
      Extraction.extractWith_accountsFor _ _ hpath hx
    have hplain : catalog.IsPlain := by
      refine Extraction.extractWith_isPlain hpath ?_ hx
      intro p hp
      obtain ⟨site, _, hparse⟩ := (mem_iff_of_mapM hparsed p).1 (List.mem_of_mem_filter hp)
      exact Position.colon_not_mem_file hparse
    have hrendered := catalog.length_rendered haccounts.final options.sort
    obtain ⟨hignored, hdiagnostics⟩ :=
      Extraction.reported_bounds hpath ⟨rfl, ⟨rfl, rfl⟩, rfl, rfl⟩ hx
    refine ⟨options, sites, ps, catalog, reporter, hcollects, hparsed, hx, rfl,
      catalog.template_eq options.sort, ?_, ?_, addsUp_ofCatalog hps haccounts hignored,
      hdiagnostics⟩
    · rw [catalog.length_blocks, hrendered]
      rfl
    · rw [catalog.read?_template hplain, Option.map_some, List.length_map, hrendered]
      rfl

end Session

open Session in
/-- The summary of a run adds up, and a run that fails prints nothing.  A run that succeeds prints
the template of what it has extracted, one block for every message that was found; its counts add
up with each other and with the call sites it has collected. -/
theorem summary_adds_up (w : World Id) (parser : Parser) (width : Char → Nat) (a : Arguments) :
    (∀ e, (Id.run (run w parser width a)).error = some e →
      (Id.run (run w parser width a)).stdout = "") ∧
    (a.hasInput = true → (Id.run (run w parser width a)).error = none →
      ∃ product options sites ps catalog reporter,
        result (body w parser width a) {} = .ok product ∧
        (Id.run (run w parser width a)).stdout = product.template ∧
        Tallied w parser width a product options sites ps catalog reporter) := by
  constructor
  · intro e he
    cases hinput : a.hasInput with
    | false =>
      rw [run_of_no_input _ _ _ _ hinput] at he
      cases he
    | true =>
      rw [run_eq _ _ _ _ hinput] at he ⊢
      cases hproduced : produced w parser width a with
      | ok product =>
        rw [hproduced] at he
        cases he
      | error e' => rfl
  · intro hinput hnone
    rw [run_eq _ _ _ _ hinput] at hnone ⊢
    cases hproduced : produced w parser width a with
    | error e =>
      rw [hproduced] at hnone
      cases hnone
    | ok product =>
      obtain ⟨options, sites, ps, catalog, reporter, htallied⟩ := exists_tallied hproduced
      refine ⟨product, options, sites, ps, catalog, reporter, ?_, rfl, htallied⟩
      rw [result_body, hproduced]

/-- Call sites of two files, one of them twice and one without a call. -/
def fourSites : String := "[[\"a.go:1:2\"], [\"b.go:7:7\"], [\"a.go:9:9\"], [\"a.go:+1:2\"]]"

/-- The call sites are read from the standard input, and a pattern excludes files. -/
def fromInput (exclude : Option String) : Arguments := { callers := some "-", exclude := exclude }

open Extraction in
/-- A tree of `A(xyz)`, a call without a message. -/
def loneProblem : Go.Node :=
  .mk .sourceFile none (placeAt 0) (placeAt 6) [callAt 0 6 [leafAt .identifier 2 5]]

open Extraction in
theorem nodup_starts_loneProblem {disk : Disk} {path : String} {f : SourceFile}
    (h : parseFile (fun _ _ => .ok loneProblem) disk path = .ok f) : f.starts.Nodup := by
  unfold parseFile parseSource at h
  cases hd : disk path with
  | error e =>
    rw [hd] at h
    cases h
  | ok source =>
    rw [hd] at h
    cases h
    exact List.nodup_singleton _

open Extraction Session in
/-- Where two calls share a start, the repeated call site is found once, after a problem that is
reported; the one without a call is not found, and one is excluded.  Where the only call has a
problem, neither is found.  With nothing excluded the run fails, as the other file is missing. -/
theorem summary_of_four_sites_adds_up :
    (∃ product options sites ps catalog reporter,
      product.summary = ⟨1, 2, 1, 1, 1, 0, 1⟩ ∧
      (Id.run (run (replay fourSites) (fun _ _ => .ok sharedStart) (fun _ => 1)
        (fromInput (some "b")))).stdout = product.template ∧
      Tallied (replay fourSites) (fun _ _ => .ok sharedStart) (fun _ => 1) (fromInput (some "b"))
        product options sites ps catalog reporter) ∧
    (∃ product options sites ps catalog reporter,
      product.summary = ⟨1, 2, 1, 0, 2, 0, 1⟩ ∧
      Tallied (replay fourSites) (fun _ _ => .ok loneProblem) (fun _ => 1) (fromInput (some "b"))
        product options sites ps catalog reporter ∧
      product.summary.diagnostics ≤ product.summary.ignored + product.summary.notFound) ∧
    (Id.run (run (replay fourSites) (fun _ _ => .ok sharedStart) (fun _ => 1)
      (fromInput none))).error = some (.extraction (.read "b.go" .missing)) ∧
    (Id.run (run (replay fourSites) (fun _ _ => .ok sharedStart) (fun _ => 1)
      (fromInput none))).stdout = "" := by
  have hshared : result (body (replay fourSites) (fun _ _ => .ok sharedStart) (fun _ => 1)
      (fromInput (some "b"))) {} =
        .ok ⟨"#: a.go:1:2\nmsgid \"x\"\nmsgstr \"\"\n\n", ⟨1, 2, 1, 1, 1, 0, 1⟩⟩ := by
    decide +kernel
  have hlone : result (body (replay fourSites) (fun _ _ => .ok loneProblem) (fun _ => 1)
      (fromInput (some "b"))) {} = .ok ⟨"", ⟨1, 2, 1, 0, 2, 0, 1⟩⟩ := by
    decide +kernel
  have herror : (Id.run (run (replay fourSites) (fun _ _ => .ok sharedStart) (fun _ => 1)
      (fromInput none))).error = some (.extraction (.read "b.go" .missing)) := by
    decide +kernel
  refine ⟨?_, ?_, herror, (summary_adds_up _ _ _ _).1 _ herror⟩
  · obtain ⟨product, options, sites, ps, catalog, reporter, hresult, hstdout, htallied⟩ :=
      (summary_adds_up (replay fourSites) (fun _ _ => .ok sharedStart) (fun _ => 1)
        (fromInput (some "b"))).2 rfl (by decide +kernel)
    rw [hshared, Except.ok.injEq] at hresult
    exact ⟨product, options, sites, ps, catalog, reporter, by rw [← hresult], hstdout, htallied⟩
  · obtain ⟨product, options, sites, ps, catalog, reporter, hresult, _, htallied⟩ :=
      (summary_adds_up (replay fourSites) (fun _ _ => .ok loneProblem) (fun _ => 1)
        (fromInput (some "b"))).2 rfl (by decide +kernel)
    rw [hlone, Except.ok.injEq] at hresult
    exact ⟨product, options, sites, ps, catalog, reporter, by rw [← hresult], htallied,
      htallied.diagnostics_le fun _ _ _ hf => nodup_starts_loneProblem hf⟩

end MessageCatalog
