import Mathlib.Data.List.Chain
import MessageCatalog.Proofs.Template

/-! # The notes of entries

A note passes through four hands: comments are grouped by the line they end on, the text of a group
is tidied up, a part of the text is selected, and that part is written in front of the entry.
`IsTidy` says what tidying up comes to, and it holds of every comment text (`isTidy_commentText`)
and of every end of one (`IsTidy.suffix`), so of every note.  A tidy note has nothing at its end
that writing would leave out (`noteLines_of_isTidy`), and each of its lines becomes one line
(`block_of_noteLines`).  `notes_are_well_formed` puts this together for the entries of a catalog
that is extracted. -/

namespace MessageCatalog

theorem getLast?_rdropWhile {α : Type} {p : α → Bool} {l : List α} {x : α}
    (h : (l.rdropWhile p).getLast? = some x) : p x = false := by
  have hne : l.rdropWhile p ≠ [] := by
    intro hnil
    rw [hnil] at h
    cases h
  have hlast := List.rdropWhile_last_not p l hne
  rw [List.getLast?_eq_some_getLast hne, Option.some.injEq] at h
  rw [h] at hlast
  simpa using hlast

/-! ### White space at the end -/

namespace Text

/-- The text does not end in white space. -/
def IsTrimmed (cs : List Char) : Prop := ∀ c, cs.getLast? = some c → isBlank c = false

theorem isTrimmed_trimEnd (cs : List Char) : IsTrimmed (trimEnd cs) :=
  fun _ hc => getLast?_rdropWhile hc

/-- All characters of the line are white space. -/
def isBlankLine (line : String) : Bool := line.toList.all isBlank

/-- A trimmed line of white space is empty. -/
theorem eq_empty_of_isTrimmed {line : String} (h : IsTrimmed line.toList)
    (hblank : isBlankLine line = true) : line = "" := by
  rw [isBlankLine, List.all_eq_true] at hblank
  cases hlast : line.toList.getLast? with
  | none => exact String.toList_eq_nil_iff.1 (List.getLast?_eq_none_iff.1 hlast)
  | some c =>
    have hc := hblank c (List.mem_of_getLast? hlast)
    rw [h c hlast] at hc
    cases hc

end Text

/-! ### Tidy lines -/

namespace Comment

/-- One of the lines is not empty. -/
def Apart (a b : List Char) : Prop := ¬(a = [] ∧ b = [])

/-- No two empty lines follow each other, and after an empty line the first is not empty. -/
theorem collapse_apart : ∀ (blank : Bool) (ls : List (List Char)),
    (collapse blank ls).IsChain Apart ∧
      (blank = true → ∀ l ∈ (collapse blank ls).head?, l ≠ [])
  | _, [] => ⟨.nil, by simp [collapse]⟩
  | blank, l :: ls => by
      rw [collapse]
      split
      · exact collapse_apart blank ls
      · rename_i hkept
        obtain ⟨hchain, hhead⟩ := collapse_apart l.isEmpty ls
        refine ⟨List.isChain_cons.2 ⟨?_, hchain⟩, ?_⟩
        · rintro m hm ⟨rfl, rfl⟩
          exact hhead rfl [] hm rfl
        · rintro rfl m hm rfl
          cases hm
          exact hkept rfl

theorem normalizeBlanks_apart (ls : List (List Char)) : (normalizeBlanks ls).IsChain Apart := by
  obtain ⟨hchain, _⟩ := collapse_apart true ls
  obtain ⟨blanks, hblanks⟩ : normalizeBlanks ls <+: collapse true ls := List.rdropWhile_prefix _ _
  rw [← hblanks] at hchain
  exact hchain.left_of_append

theorem getLast?_normalizeBlanks {ls : List (List Char)} {l : List Char}
    (h : (normalizeBlanks ls).getLast? = some l) : l ≠ [] := by
  have hlast : l.isEmpty = false := getLast?_rdropWhile h
  simpa using hlast

end Comment

/-- Lines as the text of comments has them: no line breaks in them, no white space at their ends,
no two blank lines in a row and none at the end. -/
structure IsTidy (lines : List String) : Prop where
  unbroken : ∀ l ∈ lines, '\n' ∉ l.toList
  trimmed : ∀ l ∈ lines, Text.IsTrimmed l.toList
  apart : lines.IsChain fun a b => ¬(Text.isBlankLine a = true ∧ Text.isBlankLine b = true)
  last : ∀ l, lines.getLast? = some l → Text.isBlankLine l = false

theorem isTidy_commentText (comments : List (List Char)) : IsTidy (commentText comments) := by
  have htrimmed : ∀ l ∈ commentText comments, Text.IsTrimmed l.toList := by
    intro l hl
    obtain ⟨piece, _, hline⟩ := exists_piece_of_mem_commentText hl
    rw [hline]
    exact Text.isTrimmed_trimEnd piece
  -- lines are trimmed, so a blank line is an empty one
  have hempty : ∀ l ∈ commentText comments, Text.isBlankLine l = true → l.toList = [] := by
    intro l hl hblank
    rw [Text.eq_empty_of_isTrimmed (htrimmed l hl) hblank]
    rfl
  refine ⟨fun l => newline_not_mem_commentText, htrimmed, ?_, ?_⟩
  · have hchain : (commentText comments).IsChain fun a b => Comment.Apart a.toList b.toList := by
      rw [commentText, List.isChain_map]
      simp only [String.toList_ofList]
      exact Comment.normalizeBlanks_apart _
    refine hchain.imp_of_mem_imp fun a b ha hb hapart hblank => ?_
    exact hapart ⟨hempty a ha hblank.1, hempty b hb hblank.2⟩
  · intro l hl
    have hmem : l ∈ commentText comments := List.mem_of_getLast? hl
    rw [commentText, List.getLast?_map, Option.map_eq_some_iff] at hl
    obtain ⟨raw, hraw, rfl⟩ := hl
    rw [← Bool.not_eq_true]
    intro hblank
    have hnil := hempty _ hmem hblank
    rw [String.toList_ofList] at hnil
    exact Comment.getLast?_normalizeBlanks hraw hnil

/-- The end of tidy lines is tidy. -/
theorem IsTidy.suffix {lines note : List String} (h : IsTidy lines) (hnote : note <:+ lines) :
    IsTidy note where
  unbroken l hl := h.unbroken l (hnote.subset hl)
  trimmed l hl := h.trimmed l (hnote.subset hl)
  apart := h.apart.suffix hnote
  last l hl := by
    obtain ⟨before, rfl⟩ := hnote
    refine h.last l ?_
    rw [List.getLast?_append, hl]
    rfl

/-! ### Writing a note -/

namespace Entry

/-- Nothing of a tidy note is left out. -/
theorem noteLines_of_isTidy {e : Entry} {lines : List String} (hc : e.comment = some lines)
    (h : IsTidy lines) : e.noteLines = lines := by
  have hkept : lines.rdropWhile String.isEmpty = lines := by
    refine List.rdropWhile_eq_self_iff.2 fun hne hempty => ?_
    have hlast := h.last _ (List.getLast?_eq_some_getLast hne)
    rw [String.isEmpty_iff.1 hempty] at hlast
    cases hlast
  rw [noteLines, hc, Option.getD_some]
  exact hkept

/-- The block of an entry is that of the entry without its note, behind the lines of the note. -/
theorem block_of_noteLines {e : Entry} {text : String} (ht : e.text = some text) :
    ∃ rest, { e with comment := none }.block = some rest ∧
      e.block = some (String.join (e.noteLines.map fun l => commentLine l ++ "\n") ++ rest) := by
  refine ⟨_, by rw [block, msgid, ht]; rfl, ?_⟩
  rw [block, msgid, ht]
  simp [blockLines, noteLines, Function.comp_def]

/-- A line of a note is written as one line behind its marker. -/
theorem commentLine_of_unbroken {l : String} (h : '\n' ∉ l.toList) :
    ['#', '.'] <+: (commentLine l).toList ∧ '\n' ∉ (commentLine l).toList := by
  obtain ⟨behind, hwritten, _, hmem⟩ := Template.noteLine_commentLine l
  rw [hwritten]
  refine ⟨List.prefix_append _ _, ?_⟩
  intro hc
  rcases List.mem_append.1 hc with hc | hc
  · exact absurd hc (by decide)
  · rcases hmem _ hc with hc | hc
    · exact absurd hc (by decide)
    · exact h hc

end Entry

/-! ### What an entry has above its call -/

namespace Site

variable {a : Associator} {s : Site}

/-- Without a keyword comments mean nothing. -/
theorem association_of_no_keyword (h : a.keyword = "") : s.association a = .none := by
  rw [association, Associator.associate, Associator.isEnabled, h]
  rfl

theorem association_of_verdict_ignored {d : Diagnostic} (h : s.verdict a = .ignored d) :
    s.association a = .ignored := by
  by_contra hassociation
  rw [verdict_of_not_ignored hassociation] at h
  cases hfirst : s.arguments.firstArgument? with
  | none =>
    rw [resolved_of_none hfirst] at h
    cases h
  | some argument =>
    rw [resolved_of_some hfirst] at h
    cases hr : (s.file.classify argument).resolve with
    | error e => simp [hr, Verdict.ofResolution] at h
    | ok resolution => cases resolution <;> simp [hr, Verdict.ofResolution] at h

/-- An entry is ignored only if the comments above its call say so. -/
theorem association_of_state_ignored {e : Entry} (h : s.settled? a = some e)
    (hstate : e.state = .ignored) : s.association a = .ignored := by
  unfold settled? at h
  cases hv : s.verdict a with
  | ignored d => exact association_of_verdict_ignored hv
  | found text comment =>
    rw [hv, Verdict.settled?, Option.some.injEq] at h
    rw [← h] at hstate
    cases hstate
  | problem d => simp [hv, Verdict.settled?] at h
  | failure f => simp [hv, Verdict.settled?] at h

end Site

/-- An entry of a file has a note as it should be. -/
structure Entry.IsAnnotated (a : Associator) (f : SourceFile) (e : Entry) (lines : List String) :
    Prop where
  found : e.state = .found
  /-- The note is the end of a group of comments right above the call of the entry, and no line of
  the group before it starts with the keyword. -/
  origin : ∃ s ∈ f.sites, s.position = e.position ∧ s.settled? a = some e ∧
    ∃ g ∈ f.commentGroups, g.endLine + 1 = s.call.start.location.line ∧
      ∃ before, g.lines = before ++ lines ∧ ∀ l ∈ before, ¬a.keyword.toList <+: l.toList
  /-- There is a keyword, and the note has a first line, which starts with it. -/
  keyword : a.keyword ≠ "" ∧ ∃ first rest, lines = first :: rest ∧ a.keyword.toList <+: first.toList
  unmarked : a.marker ≠ "" → ∀ l ∈ lines, ¬a.marker.toList <:+: l.toList
  tidy : IsTidy lines
  /-- The entry is written with one line for each line of the note in front. -/
  written : e.noteLines = lines ∧ ∃ rest, { e with comment := none }.block = some rest ∧
    e.block = some (String.join (lines.map fun l => commentLine l ++ "\n") ++ rest)
  lineEach : ∀ l ∈ lines, ['#', '.'] <+: (commentLine l).toList ∧ '\n' ∉ (commentLine l).toList

namespace SourceFile

variable {f : SourceFile} {a : Associator} {i : PositionIndex} {e : Entry}

theorem isAnnotated_of_mem_outcome (h : e ∈ f.outcome a i) {lines : List String}
    (hc : e.comment = some lines) : e.IsAnnotated a f lines := by
  have hfinal := f.isFinal_of_mem_outcome a i h
  have hfound : e.state = .found := hfinal.comment (by rw [hc]; rfl)
  obtain ⟨text, htext⟩ := Option.isSome_iff_exists.1 (hfinal.text.2 hfound)
  obtain ⟨s, hs, hsettled, hnote⟩ := exists_site_of_comment h hc
  obtain ⟨henabled, g, hg, hselect⟩ := Associator.exists_group_of_note hnote
  obtain ⟨hunmarked, before, first, rest, hlines, hfirst, hselected, hbefore⟩ :=
    Associator.select_eq_note hselect
  rw [file_of_mem_sites hs] at hg
  obtain ⟨hgroup, hline⟩ := mem_commentGroups_of_preceding hg
  obtain ⟨comments, hcomments⟩ := lines_of_mem_commentGroups hgroup
  have htidy : IsTidy lines := by
    refine (isTidy_commentText comments).suffix ?_
    rw [← hcomments]
    exact ⟨before, hlines.symm⟩
  have hnoteLines := Entry.noteLines_of_isTidy hc htidy
  refine
    { found := hfound
      origin := ?_
      keyword := ?_
      unmarked := ?_
      tidy := htidy
      written := ⟨hnoteLines, ?_⟩
      lineEach := fun l hl => Entry.commentLine_of_unbroken (htidy.unbroken l hl) }
  · refine ⟨s, hs, (Site.settled?_spec a hsettled).2.symm, hsettled, g, hgroup, hline, before,
      hlines, ?_⟩
    intro l hl hprefix
    have hfalse := hbefore l hl
    rw [Associator.isSelected, List.isPrefixOf_iff_prefix.2 hprefix] at hfalse
    cases hfalse
  · refine ⟨?_, first, rest, hfirst, List.isPrefixOf_iff_prefix.1 hselected⟩
    intro hempty
    rw [Associator.isEnabled, hempty] at henabled
    cases henabled
  · intro hmarker l hl hinfix
    have hfalse := hunmarked l (hlines ▸ List.mem_append_right before hl)
    rw [Associator.isMarked, Text.occursIn_iff.2 hinfix] at hfalse
    simp [hmarker] at hfalse
  · obtain ⟨block, hrest, hblock⟩ := Entry.block_of_noteLines htext
    rw [hnoteLines] at hblock
    exact ⟨block, hrest, hblock⟩

theorem plain_of_no_keyword (h : e ∈ f.outcome a i) (hkeyword : a.keyword = "") :
    e.comment = none ∧ e.state ≠ .ignored := by
  constructor
  · cases hc : e.comment with
    | none => rfl
    | some lines => exact absurd hkeyword (isAnnotated_of_mem_outcome h hc).keyword.1
  · intro hstate
    rcases List.mem_append.1 h with h | h
    · obtain ⟨s, _, hs⟩ := List.mem_filterMap.1 h
      have hassociation := Site.association_of_state_ignored hs hstate
      rw [Site.association_of_no_keyword hkeyword] at hassociation
      cases hassociation
    · obtain ⟨l, _, rfl⟩ := List.mem_map.1 h
      cases hstate

end SourceFile

/-- The notes of a catalog are as they should be, given what its files are parsed into, and there
are none without a keyword. -/
structure Catalog.IsAnnotated (a : Associator) (parse : String → Except Failure SourceFile)
    (c : Catalog) : Prop where
  noted : ∀ e ∈ c.all, ∀ lines, e.comment = some lines →
    ∃ f, parse e.position.file = .ok f ∧ e.IsAnnotated a f lines
  plain : a.keyword = "" → ∀ e ∈ c.all, e.comment = none ∧ e.state ≠ .ignored

namespace Extraction

theorem extractWith_isAnnotated {race : Race} {parse : String → Except Failure SourceFile}
    (hpath : ∀ p f, parse p = .ok f → f.path = p) {disk : Disk} {a : Associator}
    {requests : Requests} {r r' : Reporter} {c : Catalog}
    (h : extractWith race parse disk a requests r = .ok (c, r')) : c.IsAnnotated a parse := by
  obtain ⟨files, hparsed, hfiles, _, rfl⟩ := extractWith_eq_ok hpath h
  have hmem : ∀ e ∈ (insertFiles a requests .empty files).all,
      ∃ f ∈ files, e ∈ f.outcome a (requests.index f.path) := by
    intro e he
    rw [all_catalog a _ hfiles] at he
    exact List.mem_flatMap.1 he
  refine ⟨?_, ?_⟩
  · intro e he lines hc
    obtain ⟨f, hf, houtcome⟩ := hmem e he
    have hannotated := SourceFile.isAnnotated_of_mem_outcome houtcome hc
    refine ⟨f, ?_, hannotated⟩
    obtain ⟨path, _, hpf⟩ := (mem_iff_of_mapM hparsed f).1 hf
    obtain ⟨s, hs, hposition, _⟩ := hannotated.origin
    rw [← hposition, Site.position, SourceFile.file_of_mem_sites hs, hpath path f hpf]
    exact hpf
  · intro hkeyword e he
    obtain ⟨f, _, houtcome⟩ := hmem e he
    exact SourceFile.plain_of_no_keyword houtcome hkeyword

/-- Notes are well formed: in a catalog that is extracted, from disk or from given texts, the note
of an entry is the tidy end of a comment group right above its call, from the first line with the
keyword on, without the marker, and is written line by line.  Without a keyword no entry has a note
and none is ignored. -/
theorem notes_are_well_formed (race : Race) (parser : Parser) (disk : Disk)
    (sources : SortedMap String String) (a : Associator) (ps : List Position) (r r' : Reporter) (c : Catalog) :
    (extract race parser disk a (.ofList ps) r = .ok (c, r') →
      c.IsAnnotated a (parseFile parser disk)) ∧
    (extractSources race parser disk sources a (.ofList ps) r = .ok (c, r') →
      c.IsAnnotated a (parseGiven parser disk sources)) :=
  ⟨extractWith_isAnnotated (path_parseFile parser disk),
    extractWith_isAnnotated (path_parseGiven parser disk sources)⟩

/-! ### A call below four comments -/

/-- A source with a group of comments above a call. -/
def commentedSource : String := "// pre\n// T: a\n//\n// b\nA(\"x\")"

/-- A comment that covers a line. -/
def commentOn (line start stop : Nat) : Go.Node :=
  .mk .comment none ⟨start, line, 1⟩ ⟨stop, line, stop - start + 1⟩ []

/-- The tree of `commentedSource`. -/
def commentedTree : Go.Node :=
  .mk .sourceFile none ⟨0, 1, 1⟩ ⟨29, 5, 7⟩
    [commentOn 1 0 6, commentOn 2 7 14, commentOn 3 15 17, commentOn 4 18 22,
      .mk .callExpression none ⟨23, 5, 1⟩ ⟨29, 5, 7⟩
        [.mk .argumentList (some .arguments) ⟨24, 5, 2⟩ ⟨29, 5, 7⟩
          [.mk .interpretedStringLiteral none ⟨25, 5, 3⟩ ⟨28, 5, 6⟩ []]]]

/-- A note from the second line of a group on; and the same source without a keyword. -/
theorem commented_call_is_annotated :
    (∃ c r f, extract .first (fun _ _ => .ok commentedTree) (fun _ => .ok commentedSource)
        ⟨"T:", "NO"⟩ (.ofList [⟨"a.go", 5, 2⟩]) newReporter = .ok (c, r) ∧
      c.all = [.found ⟨"a.go", 5, 2⟩ "x" (some ["T: a", "", "b"])] ∧
      (Entry.found ⟨"a.go", 5, 2⟩ "x" (some ["T: a", "", "b"])).IsAnnotated ⟨"T:", "NO"⟩ f
        ["T: a", "", "b"]) ∧
    ∃ c r, extractSources .first (fun _ _ => .ok commentedTree) (fun _ => .error .missing)
        (.insert ∅ "a.go" commentedSource) ⟨"", "pre"⟩ (.ofList [⟨"a.go", 5, 2⟩]) newReporter =
          .ok (c, r) ∧
      c.all = [.found ⟨"a.go", 5, 2⟩ "x" none] ∧
      ∀ e ∈ c.all, e.comment = none ∧ e.state ≠ .ignored := by
  constructor
  · have hall : (extract .first (fun _ _ => .ok commentedTree) (fun _ => .ok commentedSource)
        ⟨"T:", "NO"⟩ (.ofList [⟨"a.go", 5, 2⟩]) newReporter).toOption.map (·.1.all) =
          some [.found ⟨"a.go", 5, 2⟩ "x" (some ["T: a", "", "b"])] := by decide +kernel
    obtain ⟨⟨c, r⟩, h, hc⟩ := exists_ok_of_map hall
    have hannotated := (notes_are_well_formed _ _ _ ∅ _ _ _ _ _).1 h
    obtain ⟨f, _, hf⟩ := hannotated.noted _ (hc ▸ List.mem_singleton_self _) _ rfl
    exact ⟨c, r, f, h, hc, hf⟩
  · have hall : (extractSources .first (fun _ _ => .ok commentedTree) (fun _ => .error .missing)
        (.insert ∅ "a.go" commentedSource) ⟨"", "pre"⟩ (.ofList [⟨"a.go", 5, 2⟩])
          newReporter).toOption.map (·.1.all) = some [.found ⟨"a.go", 5, 2⟩ "x" none] := by
      decide +kernel
    obtain ⟨⟨c, r⟩, h, hc⟩ := exists_ok_of_map hall
    exact ⟨c, r, h, hc, ((notes_are_well_formed _ _ _ _ _ _ _ _ _).2 h).plain rfl⟩

end Extraction

end MessageCatalog
