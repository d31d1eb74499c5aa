import MessageCatalog.Proofs.Announce
import MessageCatalog.Proofs.Completeness

/-! # What an extraction writes

An extraction puts the text of a file into the cache before it looks at the sites of the file, so
all its reports are about cached files.  With a fresh reporter it therefore writes the reports of
the sites that it looks at, file by file, up to the first site that fails (`buildCatalog_ending`);
neither the disk nor the order in which the cache is filled has a part in it. -/

namespace MessageCatalog

/-! ### Fresh reporters -/

namespace Reporter

/-- The reporter has written, counted and cached nothing, and its stream takes everything. -/
structure IsFresh (r : Reporter) : Prop where
  unwritten : r.stream.text = ""
  isOpen : r.stream.IsOpen
  unreported : r.reported = 0
  uncached : r.cache.files = ∅

/-- These texts are all that has been written, each for one diagnostic. -/
structure Wrote (r : Reporter) (texts : List String) : Prop where
  text : r.stream.text = String.join texts
  count : r.reported = texts.length

/-- The reporter with another cache. -/
def withCache (r : Reporter) (c : SourceCache) : Reporter := { r with cache := c }

theorem wrote_after {r : Reporter} (h : r.IsFresh) (texts : List String) (c : SourceCache) :
    ((r.after texts).withCache c).Wrote texts where
  text := by
    show r.stream.text ++ String.join texts = String.join texts
    rw [h.unwritten, String.empty_append]
  count := by
    show r.reported + texts.length = texts.length
    rw [h.unreported, Nat.zero_add]

end Reporter

namespace Site

theorem firstFailure?_append (a : Associator) (ss ts : List Site) :
    firstFailure? a (ss ++ ts) = (firstFailure? a ss).or (firstFailure? a ts) :=
  List.findSome?_append

theorem beforeFailure_append_of_none {a : Associator} {ss : List Site}
    (h : firstFailure? a ss = none) (ts : List Site) :
    beforeFailure a (ss ++ ts) = ss ++ beforeFailure a ts := by
  refine List.takeWhile_append_of_pos fun s hs => ?_
  rw [firstFailure?_eq_none_iff.1 h s hs]
  rfl

theorem beforeFailure_append_of_some {a : Associator} {e : Failure} (ts : List Site) :
    ∀ {ss : List Site}, firstFailure? a ss = some e →
      beforeFailure a (ss ++ ts) = beforeFailure a ss
  | s :: ss, h => by
      rw [firstFailure?, List.findSome?_cons] at h
      rw [beforeFailure, beforeFailure, List.cons_append, List.takeWhile_cons,
        List.takeWhile_cons]
      cases hs : (s.verdict a).failure? with
      | some e' => rfl
      | none =>
        rw [hs] at h
        exact congrArg (s :: ·) (beforeFailure_append_of_some ts h)

end Site

namespace Extraction

/-- The sites that an extraction looks at, file by file. -/
def visited (a : Associator) (requests : Requests) (files : List SourceFile) : List Site :=
  files.flatMap fun f => f.visits a (requests.index f.path)

/-! ### Priming the cache -/

theorem uncached_primed {r : Reporter} {f : SourceFile} {path : String} (hne : path ≠ f.path)
    (h : r.cache.files.get? path = none) : (primed r f).cache.files.get? path = none := by
  show (r.cache.files.insertNew f.path _).get? path = _
  rw [SortedMap.get?_insertNew, if_neg hne, h]

/-! ### Announcing files -/

theorem announceFile_eq {r : Reporter} (ho : r.stream.IsOpen) {f : SourceFile}
    (hc : r.cache.files.get? f.path = none) (disk : Disk) (a : Associator)
    (requests : Requests) :
    announceFile disk a requests r f =
      ((r.after (Site.reports a r (Site.beforeFailure a (f.visits a (requests.index f.path)))))
        |>.withCache (primed r f).cache).ending
          (Site.firstFailure? a (f.visits a (requests.index f.path))) := by
  unfold announceFile
  rw [Site.foldlM_announce disk (by exact ho)]
  · rfl
  · intro s hs
    obtain rfl := SourceFile.file_of_mem_sites (SourceFile.mem_visits hs).1
    exact get?_primed hc

/-- Files that are not cached yet write the reports of their sites up to the first failure, which
ends the run. -/
theorem foldlM_announceFile (disk : Disk) (a : Associator) (requests : Requests) :
    ∀ {files : List SourceFile} {r : Reporter}, r.stream.IsOpen →
      (∀ f ∈ files, r.cache.files.get? f.path = none) → (files.map (·.path)).Nodup →
        ∃ c, files.foldlM (announceFile disk a requests) r =
          ((r.after (Site.reports a r (Site.beforeFailure a (visited a requests files))))
            |>.withCache c).ending (Site.firstFailure? a (visited a requests files))
  | [], r, _, _, _ => ⟨r.cache, by
      rw [visited, List.flatMap_nil]
      simp only [Site.beforeFailure, List.takeWhile_nil, Site.reports, List.filterMap_nil,
        Reporter.after_nil]
      rfl⟩
  | f :: files, r, ho, hc, hn => by
      have hf := announceFile_eq ho (hc f List.mem_cons_self) disk a requests
      rw [List.foldlM_cons, hf, visited, List.flatMap_cons, ← visited]
      rw [Site.firstFailure?_append]
      cases hfail : Site.firstFailure? a (f.visits a (requests.index f.path)) with
      | some e =>
        rw [Site.beforeFailure_append_of_some _ hfail]
        exact ⟨_, rfl⟩
      | none =>
        rw [Site.beforeFailure_append_of_none hfail, Site.beforeFailure_of_none hfail]
        rw [List.map_cons, List.nodup_cons] at hn
        have hrest : ∀ g ∈ files, (primed r f).cache.files.get? g.path = none := by
          intro g hg
          refine uncached_primed ?_ (hc g (List.mem_cons_of_mem _ hg))
          intro he
          exact hn.1 (he ▸ List.mem_map_of_mem hg)
        obtain ⟨c, ih⟩ := foldlM_announceFile disk a requests
          (r := (r.after (Site.reports a r (f.visits a (requests.index f.path)))).withCache
            (primed r f).cache) ho hrest hn.2
        refine ⟨c, ih.trans ?_⟩
        rw [Site.reports_append, ← Reporter.after_after]
        rfl

/-- With a fresh reporter, building a catalog writes the reports of the sites that it looks at up
to the first failure, and succeeds if there is none. -/
theorem buildCatalog_ending (disk : Disk) (a : Associator) (requests : Requests)
    {files : List SourceFile} {r : Reporter} (hr : r.IsFresh)
    (hfiles : files.map (·.path) = requests.paths) :
    ∃ c, buildCatalog disk a requests files r = (do
      let r ← ((r.after (Site.reports a r (Site.beforeFailure a (visited a requests files))))
        |>.withCache c).ending (Site.firstFailure? a (visited a requests files))
      return (insertFiles a requests .empty files, r)) := by
  have hc : ∀ f ∈ files, r.cache.files.get? f.path = none := by
    intro f _
    rw [hr.uncached]
    rfl
  have hn : (files.map (·.path)).Nodup := by
    rw [hfiles]
    exact SortedMap.keys_nodup _
  obtain ⟨c, h⟩ := foldlM_announceFile disk a requests hr.isOpen hc hn
  exact ⟨c, by rw [buildCatalog_eq, h]⟩

/-- A catalog is built if none of the sites that are looked at fails. -/
theorem buildCatalog_of_no_failure (disk : Disk) (a : Associator) {requests : Requests}
    {files : List SourceFile} {r : Reporter} (hr : r.IsFresh)
    (hfiles : files.map (·.path) = requests.paths)
    (hfail : Site.firstFailure? a (visited a requests files) = none) :
    ∃ r', buildCatalog disk a requests files r = .ok (insertFiles a requests .empty files, r') ∧
      r'.Wrote (Site.reports a r (visited a requests files)) := by
  obtain ⟨c, h⟩ := buildCatalog_ending disk a requests hr hfiles
  rw [hfail, Site.beforeFailure_of_none hfail] at h
  exact ⟨_, h, Reporter.wrote_after hr _ c⟩

theorem buildCatalog_of_failure (disk : Disk) (a : Associator) {requests : Requests}
    {files : List SourceFile} {r : Reporter} (hr : r.IsFresh)
    (hfiles : files.map (·.path) = requests.paths) {e : Failure}
    (hfail : Site.firstFailure? a (visited a requests files) = some e) :
    ∃ r', buildCatalog disk a requests files r = .error ⟨e, r'⟩ ∧
      r'.Wrote (Site.reports a r (Site.beforeFailure a (visited a requests files))) := by
  obtain ⟨c, h⟩ := buildCatalog_ending disk a requests hr hfiles
  rw [hfail] at h
  exact ⟨_, h, Reporter.wrote_after hr _ c⟩

/-- What a successful extraction with a fresh reporter consists of. -/
theorem extractWith_eq_ok_of_fresh {race : Race} {parse : String → Except Failure SourceFile}
    (hpath : ∀ p f, parse p = .ok f → f.path = p) {disk : Disk} {a : Associator}
    {requests : Requests} {r r' : Reporter} {c : Catalog} (hr : r.IsFresh)
    (h : extractWith race parse disk a requests r = .ok (c, r')) :
    ∃ files, requests.paths.mapM parse = .ok files ∧ files.map (·.path) = requests.paths ∧
      Site.firstFailure? a (visited a requests files) = none ∧
      r'.Wrote (Site.reports a r (visited a requests files)) ∧
      c = insertFiles a requests .empty files := by
  obtain ⟨files, hparsed, hfiles, hrun, rfl⟩ := extractWith_eq_ok hpath h
  refine ⟨files, hparsed, hfiles, ?_⟩
  have hbuilt : buildCatalog disk a requests files r =
      .ok (insertFiles a requests .empty files, r') := by
    rw [buildCatalog_eq, hrun]
    rfl
  cases hfail : Site.firstFailure? a (visited a requests files) with
  | some e =>
    obtain ⟨r'', h', _⟩ := buildCatalog_of_failure disk a hr hfiles hfail
    rw [hbuilt] at h'
    cases h'
  | none =>
    obtain ⟨r'', h', hwrote⟩ := buildCatalog_of_no_failure disk a hr hfiles hfail
    rw [hbuilt, Except.ok.injEq, Prod.mk.injEq] at h'
    rw [h'.2]
    exact ⟨rfl, hwrote, rfl⟩

theorem newReporter_isFresh : newReporter.IsFresh := ⟨rfl, ⟨rfl, rfl⟩, rfl, rfl⟩

end Extraction

end MessageCatalog
