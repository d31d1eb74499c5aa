import MessageCatalog.Match.Calls
import MessageCatalog.Proofs.Evaluation
import MessageCatalog.Proofs.Index
import MessageCatalog.Proofs.Walk

/-! # Call sites

A site is a call with its argument list.  `Site.verdict` says what a site comes to when it is
looked at, without index, entries or reporter; the search through a file then takes three steps
apart:

* `SourceFile.sites` lists the sites of a file in pre-order;
* `Site.reached` drops the sites that stand, in a tree where several calls share the start of
  their argument lists, behind one that has settled their location;
* `SourceFile.visits` keeps those whose location is requested.

`matchCalls_eq` says that a search announces the verdicts of these sites in order, and that its
entries are theirs, followed by the requested locations that no site settles. -/

namespace MessageCatalog

/-! ### Verdicts -/

/-- What a call comes to. -/
inductive Verdict where
  /-- The call is left out, which is noted. -/
  | ignored (note : Diagnostic)
  /-- The call has a message. -/
  | found (text : String) (comment : Option (List String))
  /-- The call has no message, and this is why. -/
  | problem (diagnostic : Diagnostic)
  /-- The call stops the extraction. -/
  | failure (failure : Failure)
deriving DecidableEq, Repr

namespace Verdict

/-- The diagnostic that is reported. -/
def diagnostic? : Verdict → Option Diagnostic
  | ignored d | problem d => some d
  | found _ _ | failure _ => none

/-- The failure that stops the extraction. -/
def failure? : Verdict → Option Failure
  | failure f => some f
  | ignored _ | found _ _ | problem _ => none

/-- The entry that settles the position of the call. -/
def settled? (p : Position) : Verdict → Option Entry
  | ignored _ => some (.ignored p)
  | found text comment => some (.found p text comment)
  | problem _ | failure _ => none

/-- What a call comes to, given what its first argument comes to. -/
def ofResolution (comment : Option (List String)) : Except Failure Resolution → Verdict
  | .ok (.text text) => found text comment
  | .ok (.problem d) => problem d
  | .error f => failure f

/-- Report what there is to report, or stop. -/
def announce (disk : Disk) (r : Reporter) : Verdict → Except Aborted Reporter
  | ignored d | problem d => r.report disk d
  | found _ _ => .ok r
  | failure f => .error ⟨f, r⟩

end Verdict

/-! ### Sites -/

/-- A call, its argument list and the file that it is in. -/
structure Site where
  file : SourceFile
  call : Go.Node
  arguments : Go.Node

/-- The comments of a file, as far as they mean something. -/
def SourceFile.comments (f : SourceFile) (a : Associator) : FileComments :=
  if a.isEnabled then FileComments.collect f.source f.tree else .empty

namespace Site

/-- The site of a call that has an argument list. -/
def ofCall? (f : SourceFile) (call : Go.Node) : Option Site :=
  (call.child? .arguments).map fun arguments => ⟨f, call, arguments⟩

/-- The site is in the file: a call anywhere in its tree, with its argument list. -/
structure IsIn (f : SourceFile) (s : Site) : Prop where
  file : s.file = f
  call_mem : s.call ∈ f.tree.preorder
  kind : s.call.kind = .callExpression
  arguments : s.call.HasChild .arguments s.arguments

/-- Where the argument list starts. -/
def location (s : Site) : Location := s.arguments.start.location

/-- The position of the call: where its argument list starts. -/
def position (s : Site) : Position := ⟨s.file.path, s.location⟩

/-- What the comment above the call means for it. -/
def association (a : Associator) (s : Site) : Association :=
  a.associate (s.file.comments a) s.call.start.location.line

/-- What a call that is not left out comes to. -/
def resolved (s : Site) (comment : Option (List String)) : Verdict :=
  match s.arguments.firstArgument? with
  | some argument => .ofResolution comment (s.file.classify argument).resolve
  | none => .problem ⟨.noArgument, s.file.position s.call⟩

/-- What a call comes to. -/
def verdict (a : Associator) (s : Site) : Verdict :=
  match s.association a with
  | .ignored =>
    .ignored ⟨.ignored a.marker, s.file.position (s.arguments.firstArgument?.getD s.call)⟩
  | .note lines => s.resolved (some lines)
  | .none => s.resolved none

/-- The entry that settles the position of the site. -/
def settled? (a : Associator) (s : Site) : Option Entry := (s.verdict a).settled? s.position

/-- The entry of the position of the site, which was not found unless the site settles it. -/
def entryOr (a : Associator) (s : Site) : Entry := (s.settled? a).getD (.notFound s.position)

/-- The site settles its position. -/
def settles (a : Associator) (s : Site) : Bool := (s.settled? a).isSome

/-- An index in which the site has been looked at. -/
def mark (a : Associator) (i : PositionIndex) (s : Site) : PositionIndex :=
  match s.settled? a with
  | some e => (i.resolve s.location e.state).2
  | none => i

/-- The sites at which their location is still open: none before them has settled it. -/
def reached (a : Associator) : List Site → List Site
  | [] => []
  | s :: ss =>
    s :: if s.settles a then (reached a ss).filter (·.location ≠ s.location) else reached a ss

/-- The sites that are looked at: those reached whose location is pending. -/
def visits (a : Associator) (i : PositionIndex) (ss : List Site) : List Site :=
  (reached a ss).filter fun s => i.isPending s.location

end Site

namespace SourceFile

/-- The sites of a file in pre-order. -/
def sites (f : SourceFile) : List Site :=
  (f.tree.preorder.filter (·.kind = .callExpression)).filterMap (Site.ofCall? f)

/-- A site of the file settles the location. -/
def isSettled (f : SourceFile) (a : Associator) (l : Location) : Bool :=
  f.sites.any fun s => s.settles a && s.location = l

/-- The sites that a search for the pending locations of an index looks at. -/
def visits (f : SourceFile) (a : Associator) (i : PositionIndex) : List Site :=
  Site.visits a i f.sites

/-- The pending locations that no site settles. -/
def missed (f : SourceFile) (a : Associator) (i : PositionIndex) : List Location :=
  i.pending.filter fun l => !f.isSettled a l

/-- The outcome of a search: what the sites give, and then the locations that were not found. -/
def outcome (f : SourceFile) (a : Associator) (i : PositionIndex) : List Entry :=
  (f.visits a i).filterMap (Site.settled? a) ++ (f.missed a i).map fun l => .notFound ⟨f.path, l⟩

end SourceFile

/-! ### Verdicts case by case -/

/-- The lines of a note. -/
def Association.note? : Association → Option (List String)
  | note lines => some lines
  | none | ignored => Option.none

namespace Site

variable {a : Associator} {s : Site}

theorem verdict_of_ignored (h : s.association a = .ignored) : s.verdict a =
    .ignored ⟨.ignored a.marker, s.file.position (s.arguments.firstArgument?.getD s.call)⟩ := by
  rw [verdict, h]

theorem verdict_of_not_ignored (h : s.association a ≠ .ignored) :
    s.verdict a = s.resolved (s.association a).note? := by
  unfold verdict
  cases ha : s.association a with
  | ignored => exact absurd ha h
  | note lines => rfl
  | none => rfl

variable {comment : Option (List String)}

theorem resolved_of_none (h : s.arguments.firstArgument? = none) :
    s.resolved comment = .problem ⟨.noArgument, s.file.position s.call⟩ := by
  rw [resolved, h]

theorem resolved_of_some {argument : Go.Node} (h : s.arguments.firstArgument? = some argument) :
    s.resolved comment = .ofResolution comment (s.file.classify argument).resolve := by
  rw [resolved, h]

theorem resolved_of_resolves {argument : Go.Node} {x : Except Failure Resolution}
    (hf : s.arguments.IsFirstArgument argument) (hr : s.file.Resolves argument x) :
    s.resolved comment = .ofResolution comment x := by
  rw [resolved_of_some (Go.Node.firstArgument?_eq_some_iff.2 hf), SourceFile.resolves_iff.1 hr]

end Site

/-! ### One step of a search -/

namespace Matching

/-- The state with an entry for a location, if there is one, and the reporter of an
announcement. -/
def record (m : Matching) (l : Location) (e : Option Entry) (r : Reporter) : Matching :=
  match e with
  | some e => { m.settle l e.state e with reporter := r }
  | none => { m with reporter := r }

theorem resolve_eq (disk : Disk) (m : Matching) (s : Site) (comment : Option (List String))
    {argument : Go.Node} (h : s.arguments.firstArgument? = some argument) :
    m.resolve disk s.file s.location comment argument = (do
      let r ← (s.resolved comment).announce disk m.reporter
      return m.record s.location ((s.resolved comment).settled? s.position) r) := by
  unfold resolve Site.resolved
  rw [h]
  simp only
  cases (s.file.classify argument).resolve with
  | error f => rfl
  | ok resolution => cases resolution with
    | text text => rfl
    | problem d => rfl

theorem inspect_unmarked (disk : Disk) (m : Matching) (s : Site)
    (comment : Option (List String)) :
    (match s.arguments.firstArgument? with
      | some argument => m.resolve disk s.file s.location comment argument
      | none => m.report disk ⟨.noArgument, s.file.position s.call⟩) = (do
      let r ← (s.resolved comment).announce disk m.reporter
      return m.record s.location ((s.resolved comment).settled? s.position) r) := by
  cases h : s.arguments.firstArgument? with
  | some argument => exact m.resolve_eq disk s comment h
  | none =>
    unfold Site.resolved
    rw [h]
    rfl

/-- Looking at a call announces its verdict and records its entry. -/
theorem inspect_eq (disk : Disk) (a : Associator) (m : Matching) (s : Site) :
    m.inspect disk a (s.file.comments a) s.file s.call s.arguments = (do
      let r ← (s.verdict a).announce disk m.reporter
      return m.record s.location (s.settled? a) r) := by
  unfold inspect Site.settled? Site.verdict Site.association
  cases a.associate (s.file.comments a) s.call.start.location.line with
  | ignored =>
    simp only [report, Verdict.announce]
    cases m.reporter.report disk
        ⟨.ignored a.marker, s.file.position (s.arguments.firstArgument?.getD s.call)⟩ with
    | error e => rfl
    | ok r => rfl
  | note lines => exact m.inspect_unmarked disk s (some lines)
  | none => exact m.inspect_unmarked disk s none

/-- Visit a site. -/
def step (disk : Disk) (a : Associator) (m : Matching) (s : Site) : Except Aborted Matching :=
  if m.index.isPending s.location then do
    let r ← (s.verdict a).announce disk m.reporter
    return m.record s.location (s.settled? a) r
  else .ok m

theorem visit_eq (disk : Disk) (a : Associator) (f : SourceFile) (m : Matching)
    (call : Go.Node) : m.visit disk a (f.comments a) f call =
      match Site.ofCall? f call with
      | some s => m.step disk a s
      | none => .ok m := by
  unfold visit Site.ofCall?
  cases call.child? .arguments with
  | none => rfl
  | some arguments =>
    have h := m.inspect_eq disk a ⟨f, call, arguments⟩
    simp only at h
    simp only [Option.map_some, step, h]
    rfl

theorem index_record (a : Associator) (m : Matching) (s : Site) (r : Reporter) :
    (m.record s.location (s.settled? a) r).index = s.mark a m.index := by
  unfold record Site.mark
  cases s.settled? a with
  | none => rfl
  | some e => rfl

theorem entries_record (m : Matching) (l : Location) (e : Option Entry) (r : Reporter) :
    (m.record l e r).entries = m.entries ++ e.toList := by
  cases e with
  | none => simp [record]
  | some e => rfl

theorem reporter_record (m : Matching) (l : Location) (e : Option Entry) (r : Reporter) :
    (m.record l e r).reporter = r := by
  cases e with
  | none => rfl
  | some e => rfl

end Matching

/-! ### What one site does to the index -/

namespace Site

variable (a : Associator)

/-- A site settles its position as ignored or as found. -/
theorem settled?_cases {s : Site} {e : Entry} (h : s.settled? a = some e) :
    e = .ignored s.position ∨ ∃ text comment, e = .found s.position text comment := by
  unfold settled? at h
  cases hv : s.verdict a with
  | ignored d =>
    rw [hv, Verdict.settled?, Option.some.injEq] at h
    exact .inl h.symm
  | found text comment =>
    rw [hv, Verdict.settled?, Option.some.injEq] at h
    exact .inr ⟨text, comment, h.symm⟩
  | problem d => simp [hv, Verdict.settled?] at h
  | failure f => simp [hv, Verdict.settled?] at h

theorem state_settled? {s : Site} {e : Entry} (h : s.settled? a = some e) :
    e.state = .found ∨ e.state = .ignored := by
  obtain rfl | ⟨text, comment, rfl⟩ := settled?_cases a h
  · exact .inr rfl
  · exact .inl rfl

theorem settles_iff {a : Associator} {s : Site} :
    s.settles a = true ↔ (s.entryOr a).state ≠ .notFound := by
  unfold settles entryOr
  cases h : s.settled? a with
  | none => simp [Entry.notFound]
  | some e => rcases state_settled? a h with hs | hs <;> simp [hs]

theorem mark_of_settles {s : Site} (h : s.settles a = true) (i : PositionIndex) :
    ∃ state, state ≠ .pending ∧ s.mark a i = (i.resolve s.location state).2 := by
  obtain ⟨e, he⟩ := Option.isSome_iff_exists.1 h
  refine ⟨e.state, ?_, by rw [mark, he]⟩
  rcases state_settled? a he with hs | hs <;> rw [hs] <;> decide

theorem mark_of_not_settles {s : Site} (h : s.settles a = false) (i : PositionIndex) :
    s.mark a i = i := by
  rw [settles, Option.isSome_eq_false_iff, Option.isNone_iff_eq_none] at h
  rw [mark, h]

/-- The sites looked at from a site on: that site, if its location is pending, and then those
after it. -/
theorem visits_cons (i : PositionIndex) (s : Site) (ss : List Site) :
    visits a i (s :: ss) =
      if i.isPending s.location then s :: visits a (s.mark a i) ss else visits a i ss := by
  unfold visits
  rw [reached]
  cases hs : s.settles a with
  | false => rw [mark_of_not_settles a hs, List.filter_cons]; rfl
  | true =>
    obtain ⟨state, hstate, hm⟩ := mark_of_settles a hs i
    simp only [↓reduceIte, List.filter_cons, List.filter_filter, hm,
      PositionIndex.isPending_resolve hstate]
    by_cases hp : i.isPending s.location = true
    · rw [if_pos hp, if_pos hp]
    · rw [if_neg hp, if_neg hp]
      -- a site with a pending location has another location than `s`
      refine List.filter_congr fun t _ => ?_
      by_cases hl : t.location = s.location
      · simp [hl, hp]
      · simp [hl]

theorem filterMap_settled?_cons (s : Site) (ss : List Site) :
    (s :: ss).filterMap (settled? a) = (s.settled? a).toList ++ ss.filterMap (settled? a) := by
  rw [List.filterMap_cons]
  cases s.settled? a with
  | none => rfl
  | some e => rfl

/-- Marking sites takes the locations that one of them settles from the pending ones. -/
theorem pending_foldl_mark : ∀ (ss : List Site) (i : PositionIndex),
    (ss.foldl (mark a) i).pending =
      i.pending.filter fun l => !ss.any fun s => s.settles a && s.location = l
  | [], i => (List.filter_eq_self.2 fun _ _ => rfl).symm
  | s :: ss, i => by
      rw [List.foldl_cons, pending_foldl_mark ss]
      cases hs : s.settles a with
      | false =>
        rw [mark_of_not_settles a hs]
        simp [hs]
      | true =>
        obtain ⟨state, hstate, hm⟩ := mark_of_settles a hs i
        rw [hm, PositionIndex.pending_resolve hstate, List.filter_filter]
        refine List.filter_congr fun l _ => ?_
        simp [hs, eq_comm, Bool.and_comm]

theorem any_filter_location (p : Location → Bool) {l : Location} (hp : p l = true)
    (ss : List Site) :
    ((ss.filter fun s => p s.location).any fun s => s.settles a && s.location = l) =
      ss.any fun s => s.settles a && s.location = l := by
  rw [List.any_filter]
  congr 1
  funext s
  by_cases h : s.location = l
  · simp [h, hp]
  · simp [h]

/-- A location that some site settles is settled by a site that is reached. -/
theorem any_reached (l : Location) : ∀ (ss : List Site),
    ((reached a ss).any fun s => s.settles a && s.location = l) =
      ss.any fun s => s.settles a && s.location = l
  | [] => rfl
  | s :: ss => by
      rw [reached, List.any_cons, List.any_cons, ← any_reached l ss]
      cases hs : s.settles a with
      | false => simp
      | true =>
        by_cases hl : s.location = l
        · simp [hl]
        · have hne : decide (l ≠ s.location) = true := decide_eq_true (Ne.symm hl)
          rw [if_pos rfl, any_filter_location a (fun k => decide (k ≠ s.location)) hne]

end Site

/-! ### A whole search -/

namespace Matching

/-- Going through sites announces the verdicts of those that are looked at and records their
entries. -/
theorem foldlM_step (disk : Disk) (a : Associator) : ∀ (ss : List Site) (m : Matching),
    ss.foldlM (step disk a) m = (do
      let r ← (Site.visits a m.index ss).foldlM (fun r s => (s.verdict a).announce disk r)
        m.reporter
      return ⟨(Site.visits a m.index ss).foldl (Site.mark a) m.index,
        m.entries ++ (Site.visits a m.index ss).filterMap (Site.settled? a), r⟩)
  | [], m => by
      simp [Site.visits, Site.reached]
  | s :: ss, m => by
      rw [List.foldlM_cons, step, Site.visits_cons]
      by_cases hp : m.index.isPending s.location = true
      · simp only [if_pos hp, List.foldlM_cons, List.foldl_cons]
        cases (s.verdict a).announce disk m.reporter with
        | error e => rfl
        | ok r =>
          have ih := foldlM_step disk a ss (m.record s.location (s.settled? a) r)
          rw [index_record, entries_record, reporter_record, List.append_assoc] at ih
          rw [Site.filterMap_settled?_cons]
          exact ih
      · rw [if_neg hp, if_neg hp]
        exact foldlM_step disk a ss m

theorem foldlM_visit (disk : Disk) (a : Associator) (f : SourceFile) :
    ∀ (calls : List Go.Node) (m : Matching),
      calls.foldlM (visit disk a (f.comments a) f) m =
        (calls.filterMap (Site.ofCall? f)).foldlM (step disk a) m
  | [], m => rfl
  | call :: calls, m => by
      rw [List.foldlM_cons, visit_eq, List.filterMap_cons]
      cases Site.ofCall? f call with
      | none => exact foldlM_visit disk a f calls m
      | some s =>
        simp only [List.foldlM_cons]
        congr 1
        funext m'
        exact foldlM_visit disk a f calls m'

/-- Going through sites without a pending location does nothing. -/
theorem foldlM_step_of_isEmpty (disk : Disk) (a : Associator) (ss : List Site) {m : Matching}
    (h : m.index.isEmpty = true) : ss.foldlM (step disk a) m = .ok m := by
  have hv : Site.visits a m.index ss = [] := by
    rw [Site.visits, List.filter_eq_nil_iff]
    intro s _
    rw [PositionIndex.isPending_of_isEmpty h]
    decide
  rw [foldlM_step, hv]
  simp [pure, Except.pure, bind, Except.bind]

end Matching

/-- The locations that are still pending after a search are those that no site settles. -/
theorem SourceFile.pending_foldl_visits (f : SourceFile) (a : Associator) (i : PositionIndex) :
    ((f.visits a i).foldl (Site.mark a) i).pending = f.missed a i := by
  rw [Site.pending_foldl_mark, missed]
  refine List.filter_congr fun l hl => ?_
  have hp : i.isPending l = true := PositionIndex.mem_pending.1 hl
  rw [visits, Site.visits, Site.any_filter_location a i.isPending hp, Site.any_reached, isSettled]

/-- A search announces the verdicts of the sites that it looks at, in order, and its outcome is
what these sites give, followed by the locations that were not found. -/
theorem matchCalls_eq (disk : Disk) (a : Associator) (f : SourceFile) (i : PositionIndex)
    (r : Reporter) : matchCalls disk a f i r = (do
      let r ← (f.visits a i).foldlM (fun r s => (s.verdict a).announce disk r) r
      return (f.outcome a i, r)) := by
  have hfold : (if i.isEmpty then [] else f.tree.calls).foldlM
      (Matching.visit disk a (f.comments a) f) ⟨i, [], r⟩ =
        f.sites.foldlM (Matching.step disk a) ⟨i, [], r⟩ := by
    by_cases hi : i.isEmpty = true
    · rw [if_pos hi, Matching.foldlM_step_of_isEmpty disk a f.sites hi]
      rfl
    · rw [if_neg hi, Matching.foldlM_visit, Go.Node.calls_eq_preorder]
      rfl
  show (do
    let m ← (if i.isEmpty then [] else f.tree.calls).foldlM
      (Matching.visit disk a (f.comments a) f) ⟨i, [], r⟩
    return (m.finish f.path, m.reporter)) = _
  rw [hfold, Matching.foldlM_step]
  simp only [bind_assoc, pure_bind, Matching.finish, PositionIndex.finish, List.nil_append]
  have hp : ((Site.visits a i f.sites).foldl (Site.mark a) i).pending = f.missed a i :=
    f.pending_foldl_visits a i
  rw [hp]
  rfl

/-! ### The sites of a file -/

namespace Site

variable (a : Associator)

theorem mem_of_mem_reached {s : Site} : ∀ {ss : List Site}, s ∈ reached a ss → s ∈ ss
  | t :: ss, h => by
      rw [reached] at h
      rcases List.mem_cons.1 h with rfl | h
      · exact List.mem_cons_self
      · refine List.mem_cons_of_mem _ (mem_of_mem_reached ?_)
        split at h
        · exact (List.mem_filter.1 h).1
        · exact h

/-- Sites at different locations are all reached. -/
theorem reached_of_nodup : ∀ {ss : List Site}, (ss.map location).Nodup →
    reached a ss = ss
  | [], _ => rfl
  | s :: ss, h => by
      rw [List.map_cons, List.nodup_cons] at h
      rw [reached, reached_of_nodup h.2]
      split
      · rw [List.filter_eq_self.2]
        intro t ht
        refine decide_eq_true fun hl => h.1 ?_
        rw [← hl]
        exact List.mem_map_of_mem ht
      · rfl

end Site

namespace SourceFile

/-- Where the argument lists of calls start, in pre-order. -/
def starts (f : SourceFile) : List Location := f.sites.map Site.location

/-- The sites of a file are the calls in its tree. -/
theorem mem_sites_iff {f : SourceFile} {s : Site} : s ∈ f.sites ↔ s.IsIn f := by
  rw [sites, List.mem_filterMap]
  constructor
  · rintro ⟨call, hcall, hc⟩
    obtain ⟨hmem, hkind⟩ := List.mem_filter.1 hcall
    obtain ⟨arguments, ha, rfl⟩ := Option.map_eq_some_iff.1 hc
    exact ⟨rfl, hmem, of_decide_eq_true hkind, Go.Node.child?_eq_some_iff.1 ha⟩
  · rintro ⟨rfl, hmem, hkind, ha⟩
    refine ⟨s.call, List.mem_filter.2 ⟨hmem, decide_eq_true hkind⟩, ?_⟩
    rw [Site.ofCall?, Go.Node.child?_eq_some_iff.2 ha]
    rfl

theorem file_of_mem_sites {f : SourceFile} {s : Site} (h : s ∈ f.sites) : s.file = f :=
  (mem_sites_iff.1 h).file

theorem mem_visits {f : SourceFile} {a : Associator} {i : PositionIndex} {s : Site}
    (h : s ∈ f.visits a i) : s ∈ f.sites ∧ i.isPending s.location = true := by
  obtain ⟨hr, hp⟩ := List.mem_filter.1 h
  exact ⟨Site.mem_of_mem_reached a hr, hp⟩

theorem position_of_mem_visits {f : SourceFile} {a : Associator} {i : PositionIndex} {s : Site}
    (h : s ∈ f.visits a i) : s.position = ⟨f.path, s.location⟩ := by
  rw [Site.position, file_of_mem_sites (mem_visits h).1]

/-- Where calls start at different places, all requested sites are looked at. -/
theorem visits_of_nodup {f : SourceFile} (h : f.starts.Nodup) (a : Associator)
    (i : PositionIndex) : f.visits a i = f.sites.filter fun s => i.isPending s.location := by
  rw [visits, Site.visits, Site.reached_of_nodup a h]

end SourceFile

end MessageCatalog
