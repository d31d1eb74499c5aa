import MessageCatalog.Go.Parse
import MessageCatalog.Proofs.Announce
import MessageCatalog.Proofs.Completeness

/-! # The specified outcome of a location

`CallOutcome` says, case by case, what becomes of a call: its entry and the diagnostic that is
reported for it.  `LocationOutcome` says the same of a requested location.  Both speak about one
call and the tree below it, not about an index or about other calls.  Where no two calls share the
start of their argument lists, a location has at most one outcome (`outcome_iff`), and a search
that succeeds gives every requested location its outcome, in the specified order
(`search_gives_specified_outcomes`). -/

namespace MessageCatalog

/-- What becomes of a call at a requested location: its entry and the diagnostic reported for it.
-/
inductive CallOutcome (a : Associator) (s : Site) : Entry → Option Diagnostic → Prop where
  /-- The comment above the call takes it out, which is noted at the first argument. -/
  | ignored (h : s.association a = .ignored) (argument : Go.Node)
      (hf : s.arguments.IsFirstArgument argument) :
      CallOutcome a s ⟨⟨s.file.path, s.location⟩, none, .ignored, none⟩
        (some ⟨.ignored a.marker, s.file.path, argument.start.location⟩)
  /-- Without an argument this is noted at the call. -/
  | ignoredEmpty (h : s.association a = .ignored) (hf : s.arguments.HasNoArgument) :
      CallOutcome a s ⟨⟨s.file.path, s.location⟩, none, .ignored, none⟩
        (some ⟨.ignored a.marker, s.file.path, s.call.start.location⟩)
  /-- The call has no argument, which is reported at the call. -/
  | noArgument (h : s.association a ≠ .ignored) (hf : s.arguments.HasNoArgument) :
      CallOutcome a s ⟨⟨s.file.path, s.location⟩, none, .notFound, none⟩
        (some ⟨.noArgument, s.file.path, s.call.start.location⟩)
  /-- The first argument has a text. -/
  | text (h : s.association a ≠ .ignored) (argument : Go.Node)
      (hf : s.arguments.IsFirstArgument argument) (text : String)
      (ht : s.file.Resolves argument (.ok (.text text))) :
      CallOutcome a s ⟨⟨s.file.path, s.location⟩, some text, .found, (s.association a).note?⟩ none
  /-- The first argument is a problem, which is reported. -/
  | problem (h : s.association a ≠ .ignored) (argument : Go.Node)
      (hf : s.arguments.IsFirstArgument argument) (d : Diagnostic)
      (hd : s.file.Resolves argument (.ok (.problem d))) :
      CallOutcome a s ⟨⟨s.file.path, s.location⟩, none, .notFound, none⟩ (some d)

/-- What becomes of a requested location: its entry and the diagnostic reported for it. -/
inductive LocationOutcome (a : Associator) (f : SourceFile) (l : Location) :
    Entry → Option Diagnostic → Prop where
  /-- No argument list starts there. -/
  | noCall (h : ∀ s : Site, s.IsIn f → s.location ≠ l) :
      LocationOutcome a f l ⟨⟨f.path, l⟩, none, .notFound, none⟩ none
  /-- The argument list of a call starts there. -/
  | call (s : Site) (hs : s.IsIn f) (hl : s.location = l) {e : Entry} {d : Option Diagnostic}
      (h : CallOutcome a s e d) : LocationOutcome a f l e d

/-! ### Verdicts and outcomes -/

section call

variable {a : Associator} {s : Site} {e : Entry} {d : Option Diagnostic}

/-- The outcome of a call is its verdict. -/
theorem verdict_of_callOutcome (h : CallOutcome a s e d) :
    (s.verdict a).failure? = none ∧ e = s.entryOr a ∧ d = (s.verdict a).diagnostic? := by
  unfold Site.entryOr Site.settled?
  cases h with
  | ignored h argument hf =>
    rw [Site.verdict_of_ignored h, Go.Node.firstArgument?_eq_some_iff.2 hf]
    exact ⟨rfl, rfl, rfl⟩
  | ignoredEmpty h hf =>
    rw [Site.verdict_of_ignored h, Go.Node.firstArgument?_eq_none_iff.2 hf]
    exact ⟨rfl, rfl, rfl⟩
  | noArgument h hf =>
    rw [Site.verdict_of_not_ignored h,
      Site.resolved_of_none (Go.Node.firstArgument?_eq_none_iff.2 hf)]
    exact ⟨rfl, rfl, rfl⟩
  | text h argument hf text hr =>
    rw [Site.verdict_of_not_ignored h, Site.resolved_of_resolves hf hr]
    exact ⟨rfl, rfl, rfl⟩
  | problem h argument hf d hr =>
    rw [Site.verdict_of_not_ignored h, Site.resolved_of_resolves hf hr]
    exact ⟨rfl, rfl, rfl⟩

/-- A call that does not fail has an outcome. -/
theorem callOutcome_verdict (hv : (s.verdict a).failure? = none) :
    CallOutcome a s (s.entryOr a) (s.verdict a).diagnostic? := by
  unfold Site.entryOr Site.settled?
  by_cases h : s.association a = .ignored
  · rw [Site.verdict_of_ignored h]
    cases hf : s.arguments.firstArgument? with
    | none => exact .ignoredEmpty h (Go.Node.firstArgument?_eq_none_iff.1 hf)
    | some argument => exact .ignored h argument (Go.Node.firstArgument?_eq_some_iff.1 hf)
  · rw [Site.verdict_of_not_ignored h] at hv ⊢
    cases hf : s.arguments.firstArgument? with
    | none =>
      rw [Site.resolved_of_none hf]
      exact .noArgument h (Go.Node.firstArgument?_eq_none_iff.1 hf)
    | some argument =>
      have hfirst := Go.Node.firstArgument?_eq_some_iff.1 hf
      obtain ⟨x, hr⟩ := s.file.exists_resolves argument
      rw [Site.resolved_of_resolves hfirst hr] at hv ⊢
      cases x with
      | error e => cases hv
      | ok resolution => cases resolution with
        | text text => exact .text h argument hfirst text hr
        | problem d => exact .problem h argument hfirst d hr

theorem callOutcome_iff : CallOutcome a s e d ↔
    (s.verdict a).failure? = none ∧ e = s.entryOr a ∧ d = (s.verdict a).diagnostic? := by
  refine ⟨verdict_of_callOutcome, ?_⟩
  rintro ⟨hv, rfl, rfl⟩
  exact callOutcome_verdict hv

end call

variable {a : Associator} {f : SourceFile}

/-- Where only one site starts, its outcome is the outcome of the location. -/
theorem outcome_iff_of_site {s : Site} (hs : s ∈ f.sites)
    (hu : ∀ t ∈ f.sites, t.location = s.location → t = s) {e : Entry} {d : Option Diagnostic} :
    LocationOutcome a f s.location e d ↔ CallOutcome a s e d := by
  constructor
  · intro h
    cases h with
    | noCall h => exact absurd rfl (h s (SourceFile.mem_sites_iff.1 hs))
    | call t ht hl h =>
      obtain rfl := hu t (SourceFile.mem_sites_iff.2 ht) hl
      exact h
  · exact .call s (SourceFile.mem_sites_iff.1 hs) rfl

/-! ### Files whose calls start at different places -/

namespace SourceFile

/-- The entry of a location, if it is requested. -/
def entryAt (f : SourceFile) (a : Associator) (l : Location) : Entry :=
  match f.sites.find? (·.location = l) with
  | some s => s.entryOr a
  | none => .notFound ⟨f.path, l⟩

/-- The diagnostic that is reported for a location, if it is requested. -/
def diagnosticAt? (f : SourceFile) (a : Associator) (l : Location) : Option Diagnostic :=
  (f.sites.find? (·.location = l)).bind fun s => (s.verdict a).diagnostic?

variable (hd : f.starts.Nodup)
include hd

theorem eq_of_location_eq {s t : Site} (hs : s ∈ f.sites) (ht : t ∈ f.sites)
    (h : t.location = s.location) : t = s :=
  List.inj_on_of_nodup_map hd ht hs h

theorem find?_sites {s : Site} (hs : s ∈ f.sites) :
    f.sites.find? (·.location = s.location) = some s := by
  cases h : f.sites.find? (·.location = s.location) with
  | none => exact absurd (List.find?_eq_none.1 h s hs) (by simp)
  | some t =>
    have hl : t.location = s.location := by simpa using List.find?_some h
    rw [eq_of_location_eq hd hs (List.mem_of_find?_eq_some h) hl]

theorem entryAt_location {s : Site} (hs : s ∈ f.sites) (a : Associator) :
    f.entryAt a s.location = s.entryOr a := by
  rw [entryAt, find?_sites hd hs]

theorem diagnosticAt?_location {s : Site} (hs : s ∈ f.sites) (a : Associator) :
    f.diagnosticAt? a s.location = (s.verdict a).diagnostic? := by
  rw [diagnosticAt?, find?_sites hd hs, Option.bind_some]

theorem visits_ofList (a : Associator) (ls : List Location) :
    f.visits a (.ofList ls) = f.sites.filter (·.location ∈ ls) := by
  rw [visits_of_nodup hd]
  refine List.filter_congr fun s _ => ?_
  rw [PositionIndex.isPending_ofList]

/-- A location is settled exactly if its entry is found or ignored. -/
theorem isSettled_iff (a : Associator) (l : Location) :
    f.isSettled a l = true ↔ (f.entryAt a l).state ≠ .notFound := by
  rw [isSettled, List.any_eq_true]
  constructor
  · rintro ⟨s, hs, h⟩
    obtain ⟨hset, hl⟩ := Bool.and_eq_true_iff.1 h
    obtain rfl : s.location = l := by simpa using hl
    rw [entryAt_location hd hs]
    exact Site.settles_iff.1 hset
  · intro h
    unfold entryAt at h
    cases hf : f.sites.find? (·.location = l) with
    | none => simp [hf, Entry.notFound] at h
    | some s =>
      rw [hf] at h
      have hl : s.location = l := by simpa using List.find?_some hf
      exact ⟨s, List.mem_of_find?_eq_some hf, by simp [Site.settles_iff.2 h, hl]⟩

/-- The entries of the sites of requested locations, in pre-order. -/
theorem entries_visits (a : Associator) (ls : List Location) :
    (f.visits a (.ofList ls)).filterMap (Site.settled? a) =
      (f.starts.filter fun l => l ∈ ls ∧ (f.entryAt a l).state ≠ .notFound).map (f.entryAt a) := by
  rw [visits_ofList hd, Site.filterMap_settled?_eq, starts, List.filter_map, List.map_map,
    List.filter_filter]
  have hfilter : ∀ s ∈ f.sites, (s.settles a && decide (s.location ∈ ls)) =
      decide (s.location ∈ ls ∧ (f.entryAt a s.location).state ≠ .notFound) := by
    intro s hs
    rw [entryAt_location hd hs, Bool.eq_iff_iff, Bool.and_eq_true, Site.settles_iff,
      decide_eq_true_iff, decide_eq_true_iff, and_comm]
  rw [List.filter_congr hfilter]
  refine List.map_congr_left fun s hs => ?_
  exact (entryAt_location hd (List.mem_of_mem_filter hs) a).symm

/-- The reports about requested locations, in pre-order. -/
theorem reports_visits (a : Associator) (ls : List Location) (r : Reporter) :
    Site.reports a r (f.visits a (.ofList ls)) =
      ((f.starts.filter (· ∈ ls)).filterMap (f.diagnosticAt? a)).map
        (Diagnostic.rendering r.color r.width (SourceCache.splitLines f.source)) := by
  rw [visits_ofList hd, starts, List.filter_map, List.filterMap_map, List.map_filterMap]
  refine List.filterMap_congr fun s hs => ?_
  have hs : s ∈ f.sites := List.mem_of_mem_filter hs
  rw [Function.comp_apply, diagnosticAt?_location hd hs, Site.report?, file_of_mem_sites hs]

omit hd in
/-- The entry of a location that no site settles. -/
theorem entryAt_of_not_settled {a : Associator} {l : Location} (h : f.isSettled a l = false) :
    f.entryAt a l = .notFound ⟨f.path, l⟩ := by
  unfold entryAt
  cases hf : f.sites.find? (·.location = l) with
  | none => rfl
  | some s =>
    have hs : s ∈ f.sites := List.mem_of_find?_eq_some hf
    have hl : s.location = l := by simpa using List.find?_some hf
    have hn : s.settled? a = none := by
      rw [isSettled, List.any_eq_false] at h
      simpa [hl, Site.settles] using h s hs
    simp only [Site.entryOr, hn, Option.getD_none, Site.position, file_of_mem_sites hs, hl]

/-- A location without a failing site has exactly one outcome. -/
theorem outcome_iff {a : Associator} {l : Location} {e : Entry} {d : Option Diagnostic}
    (hv : ∀ s ∈ f.sites, s.location = l → (s.verdict a).failure? = none) :
    LocationOutcome a f l e d ↔ e = f.entryAt a l ∧ d = f.diagnosticAt? a l := by
  cases hf : f.sites.find? (·.location = l) with
  | some s =>
    have hs : s ∈ f.sites := List.mem_of_find?_eq_some hf
    obtain rfl : s.location = l := by simpa using List.find?_some hf
    rw [outcome_iff_of_site hs fun t ht hl => eq_of_location_eq hd hs ht hl, callOutcome_iff,
      entryAt_location hd hs, diagnosticAt?_location hd hs]
    exact ⟨fun h => h.2, fun h => ⟨hv s hs rfl, h⟩⟩
  | none =>
    have hno : ∀ s : Site, s.IsIn f → s.location ≠ l := by
      intro s hs
      simpa using List.find?_eq_none.1 hf s (mem_sites_iff.2 hs)
    rw [entryAt, diagnosticAt?, hf]
    constructor
    · intro h
      cases h with
      | noCall _ => exact ⟨rfl, rfl⟩
      | call s hs hl => exact absurd hl (hno s hs)
    · rintro ⟨rfl, rfl⟩
      exact .noCall hno

end SourceFile

/-! ### The search -/

/-- Entries and reporter are what is specified for the requested locations of a file: each
location has one outcome; the found and ignored entries come in pre-order of the calls, then those
that were not found by line and column; the diagnostics are written in pre-order. -/
def IsSpecifiedSearch (a : Associator) (f : SourceFile) (ls : List Location) (r : Reporter)
    (entries : List Entry) (r' : Reporter) : Prop :=
  ∃ (entry : Location → Entry) (diagnostic? : Location → Option Diagnostic)
    (missed : List Location),
    (∀ l ∈ ls, ∀ e d, LocationOutcome a f l e d ↔ e = entry l ∧ d = diagnostic? l) ∧
    entries = (f.starts.filter fun l => l ∈ ls ∧ (entry l).state ≠ .notFound).map entry ++
      missed.map entry ∧
    missed.Pairwise (fun l k => compare l k = .lt) ∧
    (∀ l, l ∈ missed ↔ l ∈ ls ∧ (entry l).state = .notFound) ∧
    r' = r.after (((f.starts.filter (· ∈ ls)).filterMap diagnostic?).map
      (Diagnostic.rendering r.color r.width (SourceCache.splitLines f.source)))

/-- Specified outcomes: in a file whose calls start at different places, a search that
succeeds, with the text of the file cached and a stream without a limit, gives every requested
location its outcome. -/
theorem search_gives_specified_outcomes (disk : Disk) (a : Associator) (f : SourceFile)
    (ls : List Location) (r r' : Reporter) (entries : List Entry) (hd : f.starts.Nodup)
    (ho : r.stream.IsOpen)
    (hc : r.cache.files.get? f.path = some (SourceCache.splitLines f.source))
    (h : matchCalls disk a f (.ofList ls) r = .ok (entries, r')) :
    IsSpecifiedSearch a f ls r entries r' := by
  have hcached : ∀ s ∈ f.visits a (.ofList ls), s.IsCached r := by
    intro s hs
    rw [Site.IsCached, SourceFile.file_of_mem_sites (SourceFile.mem_visits hs).1]
    exact hc
  rw [matchCalls_eq, Site.foldlM_announce disk ho hcached] at h
  cases hfail : Site.firstFailure? a (f.visits a (.ofList ls)) with
  | some e => simp [hfail, Reporter.ending, bind, Except.bind] at h
  | none =>
    simp only [hfail, Site.beforeFailure_of_none hfail, Reporter.ending, bind, Except.bind, pure,
      Except.pure, Except.ok.injEq, Prod.mk.injEq] at h
    obtain ⟨rfl, rfl⟩ := h
    refine ⟨f.entryAt a, f.diagnosticAt? a, f.missed a (.ofList ls), ?_, ?_, ?_, ?_, ?_⟩
    · intro l hl e d
      refine SourceFile.outcome_iff hd fun s hs hsl => Site.firstFailure?_eq_none_iff.1 hfail s ?_
      rw [SourceFile.visits_ofList hd]
      exact List.mem_filter.2 ⟨hs, by simpa [hsl] using hl⟩
    · rw [SourceFile.outcome, SourceFile.entries_visits hd]
      congr 1
      refine List.map_congr_left fun l hl => ?_
      have hn : f.isSettled a l = false := by simpa using (List.mem_filter.1 hl).2
      exact (SourceFile.entryAt_of_not_settled hn).symm
    · exact (PositionIndex.pending_ascending _).filter _
    · intro l
      rw [SourceFile.missed, List.mem_filter, PositionIndex.mem_pending,
        PositionIndex.isPending_ofList, decide_eq_true_iff, Bool.not_eq_true', ← Bool.not_eq_true,
        SourceFile.isSettled_iff hd, not_not]
    · rw [SourceFile.reports_visits hd]

/-- A source with calls of every kind: one with a comment and two arguments below a note, two
below a marker, one with a comment only, and one whose first argument is a call with a chain. -/
def callsSource : String :=
  "package p\nfunc f() \x7b\n// T: n\nA(/* c */ \"x\", y)\n// NO\nB(/* d */ \"y\", 1)\n" ++
    "// NO\nC(/* e */)\nD(/* e */)\nE(F(\"n\" + \"m\"), \"z\")\n\x7d\n"

/-- The parsed source. -/
def callsFile : SourceFile := ⟨"a.go", callsSource, (Go.parse callsSource).toOption.getD default⟩

/-- The locations of the calls and one without a call. -/
def callsRequested : List Location :=
  [⟨10, 4⟩, ⟨10, 2⟩, ⟨9, 2⟩, ⟨8, 2⟩, ⟨6, 2⟩, ⟨5, 1⟩, ⟨4, 2⟩]

/-- The calls with a message or a marker in the order of the text, then the other locations. -/
def callsEntries : List Entry :=
  [⟨⟨"a.go", 4, 2⟩, some "x", .found, some ["T: n"]⟩, ⟨⟨"a.go", 6, 2⟩, none, .ignored, none⟩,
    ⟨⟨"a.go", 8, 2⟩, none, .ignored, none⟩, ⟨⟨"a.go", 10, 4⟩, some "nm", .found, none⟩,
    ⟨⟨"a.go", 5, 1⟩, none, .notFound, none⟩, ⟨⟨"a.go", 9, 2⟩, none, .notFound, none⟩,
    ⟨⟨"a.go", 10, 2⟩, none, .notFound, none⟩]

/-- The notes are at the first argument and at the call, the warnings at the call and at the first
argument. -/
def callsReports : String :=
  "NOTE: call ignored, preceding comment contains NO\na.go:6:11:\n" ++
    "NOTE: call ignored, preceding comment contains NO\na.go:8:1:\n" ++
    "WARNING: no argument in function call\na.go:9:1:\nD(/* e */)\n^\n" ++
    "WARNING: argument not a string literal (call expression)\na.go:10:3:\n" ++
    "E(F(\"n\" + \"m\"), \"z\")\n  ^\n"

open Extraction in
/-- Two messages, two ignored calls and three locations without a message. -/
theorem nested_search_gives_specified_outcomes :
    callsFile.starts = [⟨4, 2⟩, ⟨6, 2⟩, ⟨8, 2⟩, ⟨9, 2⟩, ⟨10, 2⟩, ⟨10, 4⟩] ∧ ∃ r',
      matchCalls (fun _ => .error .missing) ⟨"T:", "NO"⟩ callsFile (.ofList callsRequested)
        (primed newReporter callsFile) = .ok (callsEntries, r') ∧
      r'.stream.text = callsReports ∧ r'.reported = 4 ∧
      IsSpecifiedSearch ⟨"T:", "NO"⟩ callsFile callsRequested (primed newReporter callsFile)
        callsEntries r' := by
  have hstarts : callsFile.starts = [⟨4, 2⟩, ⟨6, 2⟩, ⟨8, 2⟩, ⟨9, 2⟩, ⟨10, 2⟩, ⟨10, 4⟩] := by
    decide +kernel
  have hd : callsFile.starts.Nodup := by
    rw [hstarts]
    decide
  have hrun : (matchCalls (fun _ => .error .missing) ⟨"T:", "NO"⟩ callsFile
      (.ofList callsRequested) (primed newReporter callsFile)).toOption.map
        (fun x => (x.1, x.2.stream.text, x.2.reported)) = some (callsEntries, callsReports, 4) := by
    decide +kernel
  obtain ⟨⟨entries, r'⟩, h, hx⟩ := exists_ok_of_map hrun
  rw [Prod.mk.injEq, Prod.mk.injEq] at hx
  obtain ⟨rfl, htext, hreported⟩ := hx
  exact ⟨hstarts, r', h, htext, hreported,
    search_gives_specified_outcomes _ _ _ _ _ _ _ hd ⟨rfl, rfl⟩ (get?_primed rfl) h⟩

end MessageCatalog
