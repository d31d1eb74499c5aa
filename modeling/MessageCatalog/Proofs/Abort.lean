import MessageCatalog.Go.Parse
import MessageCatalog.Proofs.Journal

/-! # What stops an extraction

Once all files are parsed, an extraction with a fresh reporter is stopped by one thing only: a
requested call, not left out by its comment, whose first argument is a binary expression with an
operator other than `+` or an operand that is no literal before any malformed literal
(`Site.Aborts`).  Problems with a literal, a missing argument, references and other expressions
are reported and the extraction goes on; the reports need no file, since the text of a file is
cached before its calls are looked at. -/

namespace MessageCatalog

namespace Site

/-- The call stops an extraction: it is not left out, its first argument is a binary expression,
and the first fault that is met in it from left to right is a failure. -/
def Aborts (a : Associator) (s : Site) (failure : Failure) : Prop :=
  s.association a ≠ .ignored ∧
    ∃ argument, s.arguments.IsFirstArgument argument ∧ argument.kind = .binaryExpression ∧
      ∃ fault, s.file.Evaluates argument (.error fault) ∧ fault.failure? = some failure

variable {a : Associator} {s : Site} {e : Failure}

theorem failure?_ofResolution {comment : Option (List String)}
    {x : Except Failure Resolution} :
    (Verdict.ofResolution comment x).failure? = some e ↔ x = .error e := by
  cases x with
  | error e' => simp [Verdict.ofResolution, Verdict.failure?]
  | ok resolution => cases resolution with
    | text text => simp [Verdict.ofResolution, Verdict.failure?]
    | problem d => simp [Verdict.ofResolution, Verdict.failure?]

/-- The verdict of a call is a failure exactly if the call stops an extraction. -/
theorem failure?_verdict_iff : (s.verdict a).failure? = some e ↔ s.Aborts a e := by
  simp only [Aborts, ← Go.Node.firstArgument?_eq_some_iff]
  by_cases h : s.association a = .ignored
  · rw [verdict_of_ignored h]
    simp [h, Verdict.failure?]
  · rw [verdict_of_not_ignored h]
    cases hf : s.arguments.firstArgument? with
    | none =>
      rw [resolved_of_none hf]
      simp [Verdict.failure?]
    | some argument =>
      rw [resolved_of_some hf, failure?_ofResolution, SourceFile.resolve_classify_eq_error_iff]
      simp [h]

theorem failure?_eq_none_iff : (s.verdict a).failure? = none ↔ ∀ e, ¬ s.Aborts a e := by
  rw [Option.eq_none_iff_forall_ne_some]
  exact forall_congr' fun e => not_congr failure?_verdict_iff

/-- Where the first failure is. -/
theorem exists_of_firstFailure? {ss : List Site} (h : firstFailure? a ss = some e) :
    ∃ s rest, ss = beforeFailure a ss ++ s :: rest ∧
      (∀ t ∈ beforeFailure a ss, ∀ e', ¬ t.Aborts a e') ∧ s.Aborts a e := by
  obtain ⟨before, s, rest, rfl, hs, hbefore⟩ := List.findSome?_eq_some_iff.1 h
  have hb : beforeFailure a (before ++ s :: rest) = before := by
    rw [beforeFailure_append_of_none (firstFailure?_eq_none_iff.2 hbefore), beforeFailure,
      List.takeWhile_cons_of_neg (by simp [hs]), List.append_nil]
  rw [hb]
  exact ⟨s, rest, rfl, fun t ht => failure?_eq_none_iff.1 (hbefore t ht),
    failure?_verdict_iff.1 hs⟩

theorem isInternal_of_aborts (h : s.Aborts a e) : e.isInternal = true := by
  obtain ⟨_, argument, _, _, fault, _, hfault⟩ := h
  exact ChainError.isInternal_of_failure? hfault

end Site

namespace Extraction

/-- The calls at requested positions, by file and in pre-order. -/
def requestedSites (ps : List Position) (files : List SourceFile) : List Site :=
  files.flatMap fun f => f.sites.filter (·.position ∈ ps)

/-- Where calls start at different places, every call at a requested position is looked at. -/
theorem visited_eq_requestedSites (a : Associator) (ps : List Position)
    {files : List SourceFile} (h : ∀ f ∈ files, f.starts.Nodup) :
    visited a (.ofList ps) files = requestedSites ps files := by
  refine List.flatMap_congr fun f hf => ?_
  rw [SourceFile.visits_of_nodup (h f hf)]
  refine List.filter_congr fun s hs => ?_
  rw [Requests.isPending_index_ofList, Site.position, SourceFile.file_of_mem_sites hs]

/-- What aborts: building a catalog from parsed files whose calls start at different places,
with a fresh reporter, fails exactly if a call at a requested position aborts.  It fails then with
the failure of the first such call, after the reports of the requested calls before it. -/
theorem mixed_concatenations_alone_abort (disk : Disk) (a : Associator) (ps : List Position)
    (files : List SourceFile) (r : Reporter)
    (hfiles : files.map (·.path) = (Requests.ofList ps).paths)
    (hstarts : ∀ f ∈ files, f.starts.Nodup) (hr : r.IsFresh) :
    ((∃ stop, buildCatalog disk a (.ofList ps) files r = .error stop) ↔
      ∃ s ∈ requestedSites ps files, ∃ failure, s.Aborts a failure) ∧
    ∀ stop, buildCatalog disk a (.ofList ps) files r = .error stop →
      stop.failure.isInternal = true ∧
      ∃ before s rest, requestedSites ps files = before ++ s :: rest ∧
        (∀ t ∈ before, ∀ failure, ¬ t.Aborts a failure) ∧ s.Aborts a stop.failure ∧
        stop.reporter.Wrote (Site.reports a r before) := by
  have hvisited := visited_eq_requestedSites a ps hstarts
  cases hfail : Site.firstFailure? a (visited a (.ofList ps) files) with
  | none =>
    obtain ⟨r', hbuilt, _⟩ := buildCatalog_of_no_failure disk a hr hfiles hfail
    rw [hvisited, Site.firstFailure?_eq_none_iff] at hfail
    refine ⟨⟨?_, ?_⟩, ?_⟩
    · rintro ⟨stop, h⟩
      rw [hbuilt] at h
      cases h
    · rintro ⟨s, hs, failure, h⟩
      exact absurd h (Site.failure?_eq_none_iff.1 (hfail s hs) failure)
    · intro stop h
      rw [hbuilt] at h
      cases h
  | some e =>
    obtain ⟨r', hbuilt, hwrote⟩ := buildCatalog_of_failure disk a hr hfiles hfail
    obtain ⟨s, rest, hsplit, hbefore, hs⟩ := Site.exists_of_firstFailure? hfail
    refine ⟨⟨fun _ => ⟨s, ?_, e, hs⟩, fun _ => ⟨_, hbuilt⟩⟩, ?_⟩
    · rw [← hvisited, hsplit]
      exact List.mem_append_right _ List.mem_cons_self
    · intro stop h
      rw [hbuilt, Except.error.injEq] at h
      subst h
      exact ⟨Site.isInternal_of_aborts hs, _, s, rest, hvisited ▸ hsplit, hbefore, hs, hwrote⟩

/-- Calls that are reported or left out although they have a mixed chain, as a second argument,
below a marker or behind a malformed literal; then a call that aborts, and one after it. -/
def mixedSource : String :=
  "package p\nfunc f() \x7b\nA(/* c */ b, \"x\" + d)\n// NO\nB(\"x\" + d, 1)\n" ++
    "C(\"\\xff\" + d)\nD(/* e */ \"x\" + \"y\" * d, \"z\")\nE(q)\n\x7d\n"

/-- The parsed source. -/
def mixedFile : SourceFile := ⟨"a.go", mixedSource, (Go.parse mixedSource).toOption.getD default⟩

/-- All calls, from the last to the first. -/
def mixedRequest : List Position :=
  [⟨"a.go", 8, 2⟩, ⟨"a.go", 7, 2⟩, ⟨"a.go", 6, 2⟩, ⟨"a.go", 5, 2⟩, ⟨"a.go", 3, 2⟩]

/-- The reports about the calls before the one that aborts. -/
def mixedReports : String :=
  "WARNING: argument not a string literal (identifier)\na.go:3:11:\n" ++
    "A(/* c */ b, \"x\" + d)\n          ^\n" ++
    "NOTE: call ignored, preceding comment contains NO\na.go:5:3:\n" ++
    "WARNING: malformed string literal: string is not valid UTF-8\na.go:6:3:\n" ++
    "C(\"\\xff\" + d)\n  ^\n"

theorem exists_error_of_mapError {ε α β : Type} {x : Except ε α} {g : ε → β} {y : β}
    (h : (x.map fun _ => ()).mapError g = .error y) : ∃ e, x = .error e ∧ g e = y := by
  cases x with
  | error e => exact ⟨e, rfl, Except.error.inj h⟩
  | ok p => cases h

/-- The fourth call aborts at the operator in its right operand, after three reports. -/
theorem mixed_concatenation_aborts :
    ∃ stop, buildCatalog (fun _ => .error .missing) ⟨"T:", "NO"⟩ (.ofList mixedRequest) [mixedFile]
        newReporter = .error stop ∧
      stop.failure = .notAnAddition ⟨"a.go", 7, 21⟩ "*" ∧
      stop.reporter.stream.text = mixedReports ∧ stop.reporter.reported = 3 ∧
      (∃ s ∈ requestedSites mixedRequest [mixedFile], ∃ failure, s.Aborts ⟨"T:", "NO"⟩ failure) ∧
      stop.failure.isInternal = true ∧
      ∃ before s rest, requestedSites mixedRequest [mixedFile] = before ++ s :: rest ∧
        (∀ t ∈ before, ∀ failure, ¬ t.Aborts ⟨"T:", "NO"⟩ failure) ∧
        s.Aborts ⟨"T:", "NO"⟩ stop.failure ∧
        stop.reporter.Wrote (Site.reports ⟨"T:", "NO"⟩ newReporter before) := by
  have hstarts : ∀ f ∈ [mixedFile], f.starts.Nodup := by
    intro f hf
    rw [List.mem_singleton.1 hf]
    decide +kernel
  have h := mixed_concatenations_alone_abort (fun _ => .error .missing) ⟨"T:", "NO"⟩ mixedRequest
    [mixedFile] newReporter rfl hstarts newReporter_isFresh
  have hrun : ((buildCatalog (fun _ => .error .missing) ⟨"T:", "NO"⟩ (.ofList mixedRequest)
      [mixedFile] newReporter).map fun _ => ()).mapError
        (fun stop => (stop.failure, stop.reporter.stream.text, stop.reporter.reported)) =
          .error (.notAnAddition ⟨"a.go", 7, 21⟩ "*", mixedReports, 3) := by decide +kernel
  obtain ⟨stop, hstop, hseen⟩ := exists_error_of_mapError hrun
  rw [Prod.mk.injEq, Prod.mk.injEq] at hseen
  obtain ⟨hfailure, htext, hreported⟩ := hseen
  exact ⟨stop, hstop, hfailure, htext, hreported, h.1.1 ⟨stop, hstop⟩, h.2 stop hstop⟩

end Extraction

end MessageCatalog
