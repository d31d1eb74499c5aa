import Mathlib.Data.List.DropRight
import MessageCatalog.Proofs.Provenance
import MessageCatalog.Proofs.Quoting

/-! # Reading a template back

A template is a text of blocks: the lines of a note, a position, a quoted message and an empty
one.  `Template.read?` reads it from left to right.  Nothing in a block can be taken for something
else: a note ends where no marker `#.` follows, a file name ends at its first colon, and a quoted
message is on one line.  So a template tells the messages of its entries
(`template_tells_messages`), whatever their texts look like. -/

namespace MessageCatalog

/-- What a template tells about a message. -/
structure Message where
  /-- The lines of the note for the reader of the template. -/
  note : List String
  position : Position
  text : String
deriving DecidableEq, Repr

/-! ### Reading a template -/

namespace Template

/-- Read up to a character, which is passed over. -/
def upTo (stop : Char) : List Char → Option (List Char × List Char)
  | [] => none
  | c :: cs =>
    if c = stop then some ([], cs)
    else (upTo stop cs).map fun (before, rest) => (c :: before, rest)

/-- Pass over a given text. -/
def expect : List Char → List Char → Option (List Char)
  | [], cs => some cs
  | _ :: _, [] => none
  | w :: ws, c :: cs => if c = w then expect ws cs else none

/-- A line of a note, given what stands behind its marker. -/
def noteLine : List Char → Option String
  | [] => some ""
  | ' ' :: cs => some (String.ofList cs)
  | _ => none

/-- Read the lines of a note, each behind its marker. -/
def note (cs : List Char) : Option (List String × List Char) :=
  match expect ['#', '.'] cs with
  | none => some ([], cs)
  | some behind => match upTo '\n' behind with
    | none => none
    | some (line, rest) =>
      if _h : rest.length < cs.length then do
        let first ← noteLine line
        let (lines, rest) ← note rest
        return (first :: lines, rest)
      else none
termination_by cs.length

/-- Read the position of a message.  A file name ends at the first colon. -/
def position (cs : List Char) : Option (Position × List Char) := do
  let cs ← expect ['#', ':', ' '] cs
  let (file, cs) ← upTo ':' cs
  let (line, cs) ← upTo ':' cs
  let (column, cs) ← upTo '\n' cs
  return (⟨String.ofList file, ← Text.unsigned? 10 line, ← Text.unsigned? 10 column⟩, cs)

/-- Read a message: its note, its position and its text, which is quoted. -/
def message (cs : List Char) : Option (Message × List Char) := do
  let (note, cs) ← note cs
  let (position, cs) ← position cs
  let cs ← expect "msgid ".toList cs
  let (token, cs) ← upTo '\n' cs
  let text ← (Literal.decode (String.ofList token)).toOption
  let cs ← expect "msgstr \"\"\n\n".toList cs
  return (⟨note, position, text⟩, cs)

/-- Read messages up to the end of the text. -/
def messages (cs : List Char) : Option (List Message) :=
  if cs.isEmpty then some []
  else match message cs with
    | none => none
    | some (m, rest) =>
      if _h : rest.length < cs.length then (messages rest).map (m :: ·) else none
termination_by cs.length

/-- The messages of a template; a text that is none is refused. -/
def read? (text : String) : Option (List Message) := messages text.toList

/-! ### Reading what was written -/

theorem upTo_append {stop : Char} : ∀ {before : List Char}, stop ∉ before →
    ∀ (rest : List Char), upTo stop (before ++ stop :: rest) = some (before, rest)
  | [], _, rest => by rw [List.nil_append, upTo, if_pos rfl]
  | c :: before, h, rest => by
      rw [List.mem_cons, not_or] at h
      rw [List.cons_append, upTo, if_neg (Ne.symm h.1), upTo_append h.2]
      rfl

theorem expect_append : ∀ (word rest : List Char), expect word (word ++ rest) = some rest
  | [], _ => rfl
  | w :: word, rest => by rw [List.cons_append, expect, if_pos rfl, expect_append word rest]

/-- A line of a note as it is written. -/
theorem noteLine_commentLine (l : String) : ∃ behind,
    (Entry.commentLine l).toList = ['#', '.'] ++ behind ∧ noteLine behind = some l ∧
      ∀ c, c ∈ behind → c = ' ' ∨ c ∈ l.toList := by
  unfold Entry.commentLine
  by_cases h : l = ""
  · subst h
    exact ⟨[], rfl, rfl, by simp⟩
  · refine ⟨' ' :: l.toList, ?_, ?_, ?_⟩
    · simp [h]
    · rw [noteLine, String.ofList_toList]
    · simp

/-- A line of a note is read back, and reading goes on behind it. -/
theorem note_commentLine {l : String} (h : '\n' ∉ l.toList) (rest : List Char) :
    note ((Entry.commentLine l).toList ++ '\n' :: rest) =
      (note rest).map fun (lines, rest) => (l :: lines, rest) := by
  obtain ⟨behind, hwritten, hline, hmem⟩ := noteLine_commentLine l
  have hbehind : '\n' ∉ behind := by
    intro hc
    rcases hmem _ hc with hc | hc
    · exact absurd hc (by decide)
    · exact h hc
  have hshort : rest.length < (['#', '.'] ++ (behind ++ '\n' :: rest)).length := by
    simp only [List.length_append, List.length_cons]
    omega
  rw [hwritten, List.append_assoc, note, expect_append]
  simp only [upTo_append hbehind, dif_pos hshort, hline]
  cases note rest with
  | none => rfl
  | some p => rfl

/-- The lines of a note are read back in front of a position. -/
theorem note_commentLines (rest : List Char) : ∀ {lines : List String},
    (∀ l ∈ lines, '\n' ∉ l.toList) →
      note ((lines.flatMap fun l => (Entry.commentLine l).toList ++ ['\n']) ++
        (['#', ':', ' '] ++ rest)) = some (lines, ['#', ':', ' '] ++ rest)
  | [], _ => by
      rw [note]
      rfl
  | l :: lines, h => by
      rw [List.forall_mem_cons] at h
      rw [List.flatMap_cons, List.append_assoc, List.append_assoc, List.singleton_append,
        note_commentLine h.1, note_commentLines rest h.2]
      rfl

theorem not_mem_repr {c : Char} (h : c.isDigit = false) (n : Nat) : c ∉ n.repr.toList := by
  intro hc
  rw [Nat.toList_repr] at hc
  rw [Nat.isDigit_of_mem_toDigits (by decide) (by decide) hc] at h
  cases h

theorem unsigned?_repr (n : Nat) : Text.unsigned? 10 n.repr.toList = some n := by
  rw [Nat.toList_repr, Text.unsigned?_toDigits (by decide) (by decide)]

/-- A position is read back if there is no colon in the name of its file. -/
theorem position_render {p : Position} (h : ':' ∉ p.file.toList) (rest : List Char) :
    position (['#', ':', ' '] ++ (p.render.toList ++ '\n' :: rest)) = some (p, rest) := by
  obtain ⟨file, line, column⟩ := p
  have hwritten : (Position.mk file ⟨line, column⟩).render.toList ++ '\n' :: rest =
      file.toList ++ ':' :: (line.repr.toList ++ ':' :: (column.repr.toList ++ '\n' :: rest)) := by
    simp [Position.render, Location.render]
  have hline := upTo_append (not_mem_repr (c := ':') rfl line)
  have hcolumn := upTo_append (not_mem_repr (c := '\n') rfl column)
  unfold position
  rw [expect_append, hwritten]
  simp only [bind, Option.bind, upTo_append h, hline, hcolumn, unsigned?_repr,
    String.ofList_toList]
  rfl

end Template

namespace Entry

/-- The message of an entry: blank lines at the end of the note are left out. -/
def message (e : Entry) : Message :=
  ⟨(e.comment.getD []).rdropWhile String.isEmpty, e.position, e.text.getD ""⟩

/-- The block of an entry with a text, and the blank line after it. -/
def written (e : Entry) (text : String) : String :=
  String.join ((e.blockLines (Literal.quote text)).map (· ++ "\n")) ++ "\n"

/-- A block piece by piece. -/
theorem toList_written (e : Entry) (text : String) (rest : List Char) :
    (e.written text).toList ++ rest =
      (e.noteLines.flatMap fun l => (commentLine l).toList ++ ['\n']) ++
        (['#', ':', ' '] ++ (e.position.render.toList ++ '\n' ::
          ("msgid ".toList ++ ((Literal.quote text).toList ++ '\n' ::
            ("msgstr \"\"\n\n".toList ++ rest))))) := by
  simp [written, blockLines, List.flatMap_map]

theorem newline_not_mem_noteLines {e : Entry} (h : e.IsPlain) {l : String}
    (hl : l ∈ e.noteLines) : '\n' ∉ l.toList := by
  have hprefix : e.noteLines <+: e.comment.getD [] := List.rdropWhile_prefix _ _
  have hmem := hprefix.subset hl
  cases hc : e.comment with
  | none => simp [hc] at hmem
  | some lines =>
    rw [hc, Option.getD_some] at hmem
    exact h.comment lines hc l hmem

/-- A block is read back, and reading goes on behind it. -/
theorem message_written {e : Entry} (h : e.IsPlain) {text : String} (ht : e.text = some text)
    (rest : List Char) :
    Template.message ((e.written text).toList ++ rest) = some (e.message, rest) := by
  have hnote := fun rest => Template.note_commentLines rest
    fun l hl => newline_not_mem_noteLines h hl
  have hquote : '\n' ∉ (Literal.quote text).toList := by
    intro hc
    exact absurd (Literal.isControl_of_mem_quote hc) (by decide)
  rw [toList_written]
  unfold Template.message
  simp only [bind, Option.bind, hnote, Template.position_render h.file, Template.expect_append,
    Template.upTo_append hquote, String.ofList_toList, Literal.decode_quote, Except.toOption]
  simp only [message, ht, Option.getD_some]
  rfl

/-- What a template holds of the entry. -/
theorem block_eq (e : Entry) : e.block.map (· ++ "\n") = e.text.map e.written := by
  unfold block msgid
  cases e.text with
  | none => rfl
  | some text => rfl

end Entry

/-! ### Templates -/

namespace Catalog

/-- The entries that a template lists. -/
def rendered (c : Catalog) (sort : Bool) : List Entry :=
  (c.listed sort).filter (·.text.isSome)

theorem map_snd_keyed (c : Catalog) : c.keyed.map (·.2) = c.found.filter (·.text.isSome) := by
  unfold keyed
  induction c.found with
  | nil => rfl
  | cons e es ih =>
    rw [List.filterMap_cons, Entry.msgid]
    cases ht : e.text with
    | none =>
      rw [List.filter_cons_of_neg (by simp [ht])]
      exact ih
    | some text =>
      rw [List.filter_cons_of_pos (by simp [ht]), ← ih]
      rfl

theorem filter_found (c : Catalog) : c.found.filter (·.text.isSome) =
    c.all.filter fun e => e.state = .found ∧ e.text.isSome := by
  rw [found, List.filter_filter]
  refine List.filter_congr fun e _ => ?_
  rw [Bool.decide_and, Bool.decide_coe, Bool.and_comm]

/-- Sorting lists the entries with a text that were found. -/
theorem sorted_perm (c : Catalog) :
    c.sorted.Perm (c.all.filter fun e => e.state = .found ∧ e.text.isSome) := by
  rw [← filter_found, ← map_snd_keyed]
  exact (List.mergeSort_perm _ _).map _

/-- In either order, the entries listed are those with a text that were found. -/
theorem rendered_perm (c : Catalog) (sort : Bool) :
    (c.rendered sort).Perm (c.all.filter fun e => e.state = .found ∧ e.text.isSome) := by
  cases sort with
  | false =>
    rw [← filter_found]
    exact List.Perm.refl _
  | true =>
    refine (c.sorted_perm.filter _).trans ?_
    rw [← filter_found, List.filter_filter]
    simp

theorem mem_all_of_mem_listed {c : Catalog} {sort : Bool} {e : Entry} (h : e ∈ c.listed sort) :
    e ∈ c.all := by
  cases sort with
  | false => exact List.mem_of_mem_filter h
  | true =>
    obtain ⟨p, hp, rfl⟩ := List.mem_map.1 h
    have hkeyed : p.2 ∈ c.keyed.map (·.2) := List.mem_map_of_mem (List.mem_mergeSort.1 hp)
    rw [map_snd_keyed] at hkeyed
    exact List.mem_of_mem_filter (List.mem_of_mem_filter hkeyed)

end Catalog

namespace Template

theorem messages_append {block rest : List Char} {m : Message} (hne : block ≠ [])
    (h : message (block ++ rest) = some (m, rest)) :
    messages (block ++ rest) = (messages rest).map (m :: ·) := by
  have hshort : rest.length < (block ++ rest).length := by
    have := List.length_pos_iff.2 hne
    rw [List.length_append]
    omega
  rw [messages, if_neg (by simp [hne]), h]
  simp only [dif_pos hshort]

/-- The blocks of plain entries are read back one after the other. -/
theorem messages_blocks : ∀ {es : List Entry}, (∀ e ∈ es, e.IsPlain) →
    messages (String.join (es.filterMap fun e => e.block.map (· ++ "\n"))).toList =
      some ((es.filter (·.text.isSome)).map Entry.message)
  | [], _ => by
      rw [messages]
      rfl
  | e :: es, h => by
      rw [List.forall_mem_cons] at h
      have ih := messages_blocks h.2
      rw [List.filterMap_cons, Entry.block_eq]
      cases ht : e.text with
      | none =>
        rw [List.filter_cons_of_neg (by simp [ht])]
        exact ih
      | some text =>
        have hne : (e.written text).toList ≠ [] := by simp [Entry.written]
        rw [List.filter_cons_of_pos (by simp [ht]), List.map_cons]
        simp only [Option.map_some, String.join_cons, String.toList_append]
        rw [messages_append hne (e.message_written h.1 ht _), ih]
        rfl

end Template

theorem Catalog.read?_template {c : Catalog} (h : c.IsPlain) (sort : Bool) :
    Template.read? (c.template sort) = some ((c.rendered sort).map Entry.message) :=
  Template.messages_blocks fun e he => h e (mem_all_of_mem_listed he)

/-- A template tells its messages: reading it gives the note, position and text of each entry
with a text that was found, in the order of the template.  So catalogs with one template have the
same messages.  The entries of an extraction for positions that were read are plain. -/
theorem template_tells_messages :
    (∀ (c : Catalog) (sort : Bool), c.IsPlain →
      Template.read? (c.template sort) = some ((c.rendered sort).map Entry.message) ∧
      (c.rendered sort).Perm (c.all.filter fun e => e.state = .found ∧ e.text.isSome)) ∧
    (∀ (c d : Catalog) (s t : Bool), c.IsPlain → d.IsPlain → c.template s = d.template t →
      (c.rendered s).map Entry.message = (d.rendered t).map Entry.message) ∧
    ∀ (race : Race) (parser : Parser) (disk : Disk) (sources : SortedMap String String)
      (a : Associator) (ps : List Position) (r r' : Reporter) (c : Catalog),
      (∀ p ∈ ps, ∃ text, Position.parse text = .ok p) →
      Extraction.extractSources race parser disk sources a (.ofList ps) r = .ok (c, r') →
      c.IsPlain := by
  refine ⟨fun c sort h => ⟨c.read?_template h sort, c.rendered_perm sort⟩, ?_, ?_⟩
  · intro c d s t hc hd h
    have hread := c.read?_template hc s
    rw [h, d.read?_template hd t, Option.some.injEq] at hread
    exact hread.symm
  · intro race parser disk sources a ps r r' c hps h
    refine Extraction.extractWith_isPlain (Extraction.path_parseGiven parser disk sources) ?_ h
    intro p hp
    obtain ⟨text, htext⟩ := hps p hp
    exact Position.colon_not_mem_file htext

/-- A catalog of one entry whose file, note and text look like parts of a template. -/
def forgery (note : List String) : Catalog :=
  Catalog.empty.insert "a.go" [.found ⟨"b.go\nmsgid \"x\"\n#. y", 1, 2⟩
    "\"\nmsgstr \"\"\n\n#: c.go:3:4\nmsgid \"z" (some note)]

theorem forgery_isPlain (note : List String) (h : ∀ l ∈ note, '\n' ∉ l.toList) :
    (forgery note).IsPlain := by
  intro e he
  rw [List.mem_singleton.1 he]
  refine ⟨by simp [Entry.found], ?_⟩
  intro lines hc
  cases hc
  exact h

open Extraction in
/-- A forged template is read as the one message that it holds, and so is that of a catalog
without the blank lines; the entries of two calls that share a start are plain. -/
theorem forged_template_tells_message :
    (Template.read? ((forgery ["#: d.go:5:6", "", ""]).template true) =
        some (((forgery ["#: d.go:5:6", "", ""]).rendered true).map Entry.message) ∧
      ((forgery ["#: d.go:5:6", "", ""]).rendered true).Perm
        ((forgery ["#: d.go:5:6", "", ""]).all.filter fun e =>
          e.state = .found ∧ e.text.isSome)) ∧
    ((forgery ["#: d.go:5:6", "", ""]).template true = (forgery ["#: d.go:5:6"]).template false ∧
      ((forgery ["#: d.go:5:6", "", ""]).rendered true).map Entry.message =
        ((forgery ["#: d.go:5:6"]).rendered false).map Entry.message) ∧
    Position.parse "a.go:+1:02" = .ok ⟨"a.go", 1, 2⟩ ∧
    ∃ c r, extractSources .first (fun _ _ => .ok sharedStart) (fun _ => .error .missing)
      (.insert ∅ "a.go" "A(\"x\")") ⟨"", ""⟩ (.ofList [⟨"a.go", 1, 2⟩]) newReporter =
        .ok (c, r) ∧ c.IsPlain := by
  have hlong := forgery_isPlain ["#: d.go:5:6", "", ""] (by decide)
  have hshort := forgery_isPlain ["#: d.go:5:6"] (by decide)
  have hsame : (forgery ["#: d.go:5:6", "", ""]).template true =
      (forgery ["#: d.go:5:6"]).template false := by decide +kernel
  have hparsed : Position.parse "a.go:+1:02" = .ok ⟨"a.go", 1, 2⟩ := rfl
  obtain ⟨c, r, h⟩ := exists_ok_of_isOk (x := extractSources .first (fun _ _ => .ok sharedStart)
    (fun _ => .error .missing) (.insert ∅ "a.go" "A(\"x\")") ⟨"", ""⟩ (.ofList [⟨"a.go", 1, 2⟩])
    newReporter) (by decide +kernel)
  obtain ⟨hread, hequal, hplain⟩ := template_tells_messages
  refine ⟨hread _ true hlong, ⟨hsame, hequal _ _ true false hlong hshort hsame⟩, hparsed, c, r, h,
    hplain _ _ _ _ _ _ _ _ _ ?_ h⟩
  intro p hp
  rw [List.mem_singleton.1 hp]
  exact ⟨_, hparsed⟩

end MessageCatalog
