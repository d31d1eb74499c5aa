import Mathlib.Data.List.Nodup
import MessageCatalog.Proofs.Race
import MessageCatalog.Proofs.Site

/-! # An extraction file by file

`Requests.index` is the index of the requested locations of a path; a position is pending there
exactly if it was requested (`isPending_index_ofList`).  Once the files are parsed, the extraction is two
independent things: the verdicts of the sites are announced file by file, and the catalog holds
the outcome of each file (`buildCatalog_eq`, `entries_catalog`). -/

namespace MessageCatalog

/-! ### Requests -/

namespace Requests

/-- The requested locations of a path, in order. -/
def locations (r : Requests) (path : String) : List Location := ((r.files.get? path).getD ∅).keys

/-- The index of the requested locations of a path. -/
def index (r : Requests) (path : String) : PositionIndex := .ofList (r.locations path)

theorem mem_locations_add (r : Requests) (p : Position) (path : String) (l : Location) :
    l ∈ (r.add p).locations path ↔ ⟨path, l⟩ = p ∨ l ∈ r.locations path := by
  obtain ⟨file, k⟩ := p
  unfold locations add
  rw [SortedMap.get?_alter, SortedMap.mem_keys_iff, SortedMap.mem_keys_iff]
  by_cases hfile : path = file
  · subst hfile
    rw [if_pos rfl, Option.getD_some, SortedMap.get?_insert]
    by_cases hl : l = k <;> simp [hl]
  · rw [if_neg hfile]
    simp [hfile]

theorem mem_locations_foldl_add (path : String) (l : Location) :
    ∀ (ps : List Position) (r : Requests),
      l ∈ (ps.foldl add r).locations path ↔ ⟨path, l⟩ ∈ ps ∨ l ∈ r.locations path
  | [], r => by simp
  | p :: ps, r => by
      rw [List.foldl_cons, mem_locations_foldl_add path l ps, mem_locations_add, List.mem_cons]
      tauto

/-- The requested locations of a path are those of the positions in it. -/
theorem mem_locations_ofList {ps : List Position} {path : String} {l : Location} :
    l ∈ (ofList ps).locations path ↔ ⟨path, l⟩ ∈ ps := by
  rw [ofList, mem_locations_foldl_add]
  exact or_iff_left List.not_mem_nil

theorem locations_ascending (r : Requests) (path : String) :
    (r.locations path).Pairwise fun a b => compare a b = .lt := SortedMap.keys_ascending _

/-- The requested positions are pending, and no others. -/
theorem isPending_index_ofList (ps : List Position) (path : String) (l : Location) :
    ((ofList ps).index path).isPending l = decide (⟨path, l⟩ ∈ ps) := by
  rw [index, PositionIndex.isPending_ofList]
  exact decide_eq_decide.2 mem_locations_ofList

theorem isSome_foldl_add (path : String) : ∀ (ps : List Position) (r : Requests),
    ((ps.foldl add r).files.get? path).isSome =
      ((r.files.get? path).isSome || ps.any (·.file = path))
  | [], r => by simp
  | p :: ps, r => by
      rw [List.foldl_cons, isSome_foldl_add path ps, add, SortedMap.get?_alter]
      by_cases h : path = p.file
      · simp [h]
      · simp [h, Ne.symm h]

/-- The requested paths are the files of the requested positions. -/
theorem mem_paths_ofList {ps : List Position} {path : String} :
    path ∈ (ofList ps).paths ↔ ∃ p ∈ ps, p.file = path := by
  have h := isSome_foldl_add path ps empty
  rw [paths, SortedMap.mem_keys_iff, ofList, h]
  simp [empty]

theorem index_of_not_mem_paths {r : Requests} {path : String} (h : path ∉ r.paths) :
    r.index path = .empty := by
  rw [paths, SortedMap.mem_keys_iff, Option.not_isSome_iff_eq_none] at h
  rw [index, locations, h]
  rfl

end Requests

namespace SourceFile

/-- Without requested locations nothing is looked at. -/
theorem visits_empty (f : SourceFile) (a : Associator) : f.visits a .empty = [] := by
  rw [visits, Site.visits, List.filter_eq_nil_iff]
  intro s _
  rw [PositionIndex.isPending_of_isEmpty rfl]
  decide

theorem outcome_empty (f : SourceFile) (a : Associator) : f.outcome a .empty = [] := by
  rw [outcome, visits_empty]
  rfl

end SourceFile

/-! ### Parsing -/

section parsing

variable {parse : String → Except Failure SourceFile}

/-- Parsed files have the paths that they were parsed for. -/
theorem paths_of_mapM (hpath : ∀ p f, parse p = .ok f → f.path = p) :
    ∀ {paths : List String} {files : List SourceFile},
      paths.mapM parse = .ok files → files.map (·.path) = paths
  | [], files, h => by
      obtain rfl : files = [] := (mapM_eq_ok_iff.1 h).2
      rfl
  | p :: paths, files, h => by
      obtain ⟨f, files, hf, hfiles, rfl⟩ := mapM_cons_eq_ok h
      rw [List.map_cons, hpath p f hf, paths_of_mapM hpath hfiles]

end parsing

namespace Extraction

theorem path_parseSource {parser : Parser} {path source : String} {f : SourceFile}
    (h : parseSource parser path source = .ok f) : f.path = path := by
  unfold parseSource at h
  split at h
  · cases h
    rfl
  · cases h

theorem path_parseFile (parser : Parser) (disk : Disk) (path : String) (f : SourceFile)
    (h : parseFile parser disk path = .ok f) : f.path = path := by
  unfold parseFile at h
  split at h
  · exact path_parseSource h
  · cases h

theorem path_parseGiven (parser : Parser) (disk : Disk) (sources : SortedMap String String)
    (path : String) (f : SourceFile) (h : parseGiven parser disk sources path = .ok f) :
    f.path = path := by
  unfold parseGiven at h
  split at h
  · exact path_parseSource h
  · exact path_parseFile parser disk path f h

/-- The reporter with the text of a file in its cache. -/
def primed (r : Reporter) (f : SourceFile) : Reporter :=
  { r with cache := r.cache.insert f.path f.source }

theorem get?_primed {r : Reporter} {f : SourceFile} (h : r.cache.files.get? f.path = none) :
    (primed r f).cache.files.get? f.path = some (SourceCache.splitLines f.source) := by
  show (r.cache.files.insertNew f.path _).get? f.path = _
  rw [SortedMap.get?_insertNew, if_pos rfl, h]
  rfl

/-- Announce the verdicts of the sites of a file that are looked at. -/
def announceFile (disk : Disk) (a : Associator) (requests : Requests) (r : Reporter)
    (f : SourceFile) : Except Aborted Reporter :=
  (f.visits a (requests.index f.path)).foldlM (fun r s => (s.verdict a).announce disk r)
    (primed r f)

/-- A catalog with the outcomes of files put in. -/
def insertFiles (a : Associator) (requests : Requests) (c : Catalog) (files : List SourceFile) :
    Catalog :=
  files.foldl (fun c f => c.insert f.path (f.outcome a (requests.index f.path))) c

theorem addFile_eq (disk : Disk) (a : Associator) (requests : Requests) (c : Catalog)
    (r : Reporter) (f : SourceFile) :
    addFile disk a requests (c, r) f = (do
      let r ← announceFile disk a requests r f
      return (c.insert f.path (f.outcome a (requests.index f.path)), r)) := by
  unfold addFile announceFile Requests.index Requests.locations
  cases requests.files.get? f.path with
  | some locations =>
    simp only [Option.getD_some, matchCalls_eq, bind_assoc, pure_bind]
    rfl
  | none =>
    have hempty : PositionIndex.ofList (∅ : SortedSet Location).keys = .empty := rfl
    simp only [Option.getD_none, hempty, f.visits_empty a, f.outcome_empty a]
    rfl

theorem foldlM_addFile (disk : Disk) (a : Associator) (requests : Requests) :
    ∀ (files : List SourceFile) (c : Catalog) (r : Reporter),
      files.foldlM (addFile disk a requests) (c, r) = (do
        let r ← files.foldlM (announceFile disk a requests) r
        return (insertFiles a requests c files, r))
  | [], c, r => by rfl
  | f :: files, c, r => by
      simp only [List.foldlM_cons, addFile_eq, bind_assoc, pure_bind,
        foldlM_addFile disk a requests files]
      rfl

/-- Building a catalog announces the verdicts file by file and puts in the outcomes. -/
theorem buildCatalog_eq (disk : Disk) (a : Associator) (requests : Requests)
    (files : List SourceFile) (r : Reporter) :
    buildCatalog disk a requests files r = (do
      let r ← files.foldlM (announceFile disk a requests) r
      return (insertFiles a requests .empty files, r)) :=
  foldlM_addFile disk a requests files .empty r

/-- Files that come in the order of their paths are listed in that order. -/
theorem entries_insertFiles (a : Associator) (requests : Requests) :
    ∀ (files : List SourceFile) (c : Catalog),
      (c.files.keys ++ files.map (·.path)).Pairwise (fun p q => compare p q = .lt) →
        (insertFiles a requests c files).files.entries = c.files.entries ++
          files.map fun f => (f.path, f.outcome a (requests.index f.path))
  | [], c, _ => by simp [insertFiles]
  | f :: files, c, h => by
      have habove : ∀ e ∈ c.files.entries, compare e.1 f.path = .lt := by
        intro e he
        exact (List.pairwise_append.1 h).2.2 e.1 (List.mem_map_of_mem he) f.path (by simp)
      have hinsert : (c.insert f.path (f.outcome a (requests.index f.path))).files.entries =
          c.files.entries ++ [(f.path, f.outcome a (requests.index f.path))] :=
        SortedMap.alterEntries_of_above _ habove
      have hkeys : (c.insert f.path (f.outcome a (requests.index f.path))).files.keys =
          c.files.keys ++ [f.path] := by
        rw [SortedMap.keys, hinsert, List.map_append]
        rfl
      have ih := entries_insertFiles a requests files
        (c.insert f.path (f.outcome a (requests.index f.path))) (by
          rw [hkeys, List.append_assoc]
          exact h)
      rw [hinsert, List.append_assoc] at ih
      exact ih

/-- The catalog of files that come in the order of their paths holds their outcomes. -/
theorem entries_catalog (a : Associator) (requests : Requests) {files : List SourceFile}
    (h : files.map (·.path) = requests.paths) :
    (insertFiles a requests .empty files).files.entries =
      files.map fun f => (f.path, f.outcome a (requests.index f.path)) := by
  rw [entries_insertFiles]
  · rfl
  · show (files.map (·.path)).Pairwise _
    rw [h]
    exact requests.files.keys_ascending

theorem all_catalog (a : Associator) (requests : Requests) {files : List SourceFile}
    (h : files.map (·.path) = requests.paths) :
    (insertFiles a requests .empty files).all =
      files.flatMap fun f => f.outcome a (requests.index f.path) := by
  rw [Catalog.all, SortedMap.values, entries_catalog a requests h, List.map_map,
    List.flatMap_def]
  rfl

/-- What a successful extraction consists of. -/
theorem extractWith_eq_ok {race : Race} {parse : String → Except Failure SourceFile}
    (hpath : ∀ p f, parse p = .ok f → f.path = p) {disk : Disk} {a : Associator}
    {requests : Requests} {r r' : Reporter} {c : Catalog}
    (h : extractWith race parse disk a requests r = .ok (c, r')) :
    ∃ files, requests.paths.mapM parse = .ok files ∧ files.map (·.path) = requests.paths ∧
      files.foldlM (announceFile disk a requests) r = .ok r' ∧
      c = insertFiles a requests .empty files := by
  unfold extractWith at h
  cases hgather : race.gather (requests.paths.map parse) with
  | error e => simp [hgather] at h
  | ok files =>
    have hp := (Race.gather_eq_ok_iff race).1 hgather
    rw [hgather] at h
    simp only [buildCatalog_eq] at h
    cases hr : files.foldlM (announceFile disk a requests) r with
    | error e => simp [hr, bind, Except.bind] at h
    | ok r'' =>
      simp only [hr, bind, Except.bind, pure, Except.pure, Except.ok.injEq, Prod.mk.injEq] at h
      obtain ⟨hc, rfl⟩ := h
      exact ⟨files, hp, paths_of_mapM hpath hp, hr, hc.symm⟩

/-! ### Races -/

end Extraction

end MessageCatalog
