import Mathlib.Data.List.TakeWhile
import MessageCatalog.Proofs.Scanning

/-! # Texts of documents

A text of call sites is a sequence of documents with white space between them.  `IsDocument` says of
a text alone which call sites it lists: an array lists those of its elements, or is one call site
itself if its elements are none; an object is one call site.

The reader takes a text for exactly such a sequence, and lists what each document lists in the order
of the documents (`parse_eq_ok_iff`).  It fails exactly if behind a sequence of documents something
stands that is none, for the fault found there (`parse_eq_error_iff`), and then lists nothing.  As
documents tell their own end, a sequence can stand in front of any text. -/

namespace MessageCatalog

namespace Json

variable {α : Type}

/-- The text is a sequence of documents, each with what it stands for, and white space around
them. -/
inductive Sequence (isDocument : List Char → α → Prop) : List Char → List α → Prop where
  | nil {space : List Char} : (∀ c ∈ space, isSpace c = true) → Sequence isDocument space []
  | cons {space d rest : List Char} {x : α} {xs : List α} : (∀ c ∈ space, isSpace c = true) →
      isDocument d x → Sequence isDocument rest xs →
      Sequence isDocument (space ++ d ++ rest) (x :: xs)

/-- The scanner reads the whole text, from its first character on. -/
def ReadsAll (document : Scan α) (d : List Char) (x : α) : Prop :=
  document d = .ok (x, []) ∧ ∃ c body, d = c :: body ∧ isSpace c = false

section

variable {document : Scan α} (hdocument : Delimited document)

include hdocument

/-- What is read behind white space is a document on its own. -/
theorem exists_readsAll_of_token {cs body rest : List Char} {c : Char} {x : α}
    (hc : skipSpace cs = c :: body) (hx : document (c :: body) = .ok (x, rest)) :
    ∃ space d, (∀ a ∈ space, isSpace a = true) ∧ ReadsAll document d x ∧
      cs = space ++ d ++ rest := by
  obtain ⟨space, hspace, hfirst, rfl⟩ := exists_space_of_token hc
  obtain ⟨d, hne, hcs, hd⟩ := hdocument.reads hx
  obtain ⟨a, d, rfl⟩ := List.exists_cons_of_ne_nil hne
  rw [List.cons_append, List.cons.injEq] at hcs
  obtain ⟨rfl, rfl⟩ := hcs
  have halone : document (c :: d) = .ok (x, []) := by
    have := hd []
    rwa [List.append_nil] at this
  exact ⟨space, c :: d, hspace, ⟨halone, c, d, rfl, hfirst⟩, by simp⟩

theorem sequence_of_documents (cs : List Char) : ∀ {xs}, documents document cs = .ok xs →
    Sequence (ReadsAll document) cs xs := by
  fun_induction documents document cs with
  | case1 cs hc =>
    intro xs h
    cases h
    exact .nil (List.dropWhile_eq_nil_iff.1 hc)
  | case2 => intro xs h; cases h
  | case3 => intro xs h; cases h
  | case4 cs c body hc x rest hx hlt xs hxs ih =>
    intro xs h
    cases h
    obtain ⟨space, d, hspace, hd, rfl⟩ := exists_readsAll_of_token hdocument hc hx
    exact .cons hspace hd (ih hxs)
  | case5 => intro xs h; cases h

theorem documents_of_sequence {cs : List Char} {xs : List α}
    (h : Sequence (ReadsAll document) cs xs) : documents document cs = .ok xs := by
  induction h with
  | nil hspace => rw [documents, skipSpace, List.dropWhile_eq_nil_iff.2 hspace]
  | @cons space d rest x xs hspace hd _ ih =>
    obtain ⟨hread, c, body, rfl, hfirst⟩ := hd
    have htoken := skipSpace_of_token hspace hfirst (body ++ rest)
    have hx : document (c :: (body ++ rest)) = .ok (x, rest) := hdocument.append hread rest
    rw [List.append_assoc, List.cons_append, documents_of_token hdocument htoken, hx]
    simp only [ih]
    rfl

/-- Reading fails behind the documents that can be read, and for the reason found there. -/
theorem documents_eq_error_iff {cs : List Char} {f : Fault} :
    documents document cs = .error f ↔ ∃ front xs c body, cs = front ++ c :: body ∧
      Sequence (ReadsAll document) front xs ∧ isSpace c = false ∧
      document (c :: body) = .error f := by
  constructor
  · intro h
    fun_induction documents document cs generalizing f with
    | case1 => cases h
    | case2 cs c body hc f' hf =>
      cases h
      obtain ⟨space, hspace, hfirst, rfl⟩ := exists_space_of_token hc
      exact ⟨space, [], c, body, rfl, .nil hspace, hfirst, hf⟩
    | case3 cs c body hc x rest hx hlt f' hf ih =>
      cases h
      obtain ⟨front, xs, a, bad, rfl, hfront, ha, hbad⟩ := ih hf
      -- the document in front is one more that can be read
      obtain ⟨space, d, hspace, hd, rfl⟩ := exists_readsAll_of_token hdocument hc hx
      exact ⟨space ++ d ++ front, x :: xs, a, bad, by simp, .cons hspace hd hfront, ha, hbad⟩
    | case4 => cases h
    | case5 cs c body hc x rest hx hlt =>
      obtain ⟨space, _, _, rfl⟩ := exists_space_of_token hc
      have := hdocument.length_lt hx
      rw [List.length_append] at hlt
      omega
  · rintro ⟨front, xs, c, body, rfl, hfront, hc, hbad⟩
    have hbody : documents document (c :: body) = .error f := by
      have htoken : skipSpace (c :: body) = c :: body :=
        List.dropWhile_cons_of_neg (by simp [hc])
      rw [documents_of_token hdocument htoken, hbad]
    rw [documents_append hdocument front (documents_of_sequence hdocument hfront), hbody]
    rfl

end

theorem Sequence.imp {isDocument isDocument' : List Char → α → Prop}
    (himp : ∀ d x, isDocument d x → isDocument' d x) {cs : List Char} {xs : List α}
    (h : Sequence isDocument cs xs) : Sequence isDocument' cs xs := by
  induction h with
  | nil hspace => exact .nil hspace
  | cons hspace hd _ ih => exact .cons hspace (himp _ _ hd) ih

end Json

namespace CallSite

/-- The text is a document, and these are its call sites. -/
inductive IsDocument : List Char → List CallSite → Prop where
  /-- A list of call sites. -/
  | many {d : List Char} {elements : List Json.Value} {sites : List CallSite} :
      Json.ReadsAll (Json.value Json.depthLimit) d (.array elements) →
      elements.mapM ofValue = some sites → IsDocument d sites
  /-- A list of texts that is no list of call sites. -/
  | row {d : List Char} {elements : List Json.Value} {site : CallSite} :
      Json.ReadsAll (Json.value Json.depthLimit) d (.array elements) →
      elements.mapM ofValue = none → ofElements elements = some site → IsDocument d [site]
  /-- An object with a position. -/
  | record {d : List Char} {members : List (String × Json.Value)} {site : CallSite} :
      Json.ReadsAll (Json.value Json.depthLimit) d (.object members) →
      ofMembers members = some site → IsDocument d [site]

theorem ofDocument_array (elements : List Json.Value) : ofDocument (.array elements) =
    (elements.mapM ofValue).or ((ofElements elements).map fun s => [s]) := rfl

theorem ofDocument_object (members : List (String × Json.Value)) :
    ofDocument (.object members) = (ofMembers members).map fun s => [s] := rfl

theorem isDocument_iff {d : List Char} {sites : List CallSite} :
    IsDocument d sites ↔ Json.ReadsAll document d sites := by
  constructor
  · rintro (⟨⟨hv, hfirst⟩, hsites⟩ | ⟨⟨hv, hfirst⟩, hnone, hsite⟩ | ⟨⟨hv, hfirst⟩, hsite⟩)
    · refine ⟨document_eq_ok_iff.2 ⟨_, hv, ?_⟩, hfirst⟩
      rw [ofDocument_array, hsites, Option.some_or]
    · refine ⟨document_eq_ok_iff.2 ⟨_, hv, ?_⟩, hfirst⟩
      rw [ofDocument_array, hnone, hsite, Option.none_or, Option.map_some]
    · refine ⟨document_eq_ok_iff.2 ⟨_, hv, ?_⟩, hfirst⟩
      rw [ofDocument_object, hsite, Option.map_some]
  · rintro ⟨h, hfirst⟩
    obtain ⟨v, hv, hsites⟩ := document_eq_ok_iff.1 h
    cases v with
    | null | bool | number | string => cases hsites
    | object members =>
      rw [ofDocument_object, Option.map_eq_some_iff] at hsites
      obtain ⟨site, hsite, rfl⟩ := hsites
      exact .record ⟨hv, hfirst⟩ hsite
    | array elements =>
      rw [ofDocument_array] at hsites
      cases hmany : elements.mapM ofValue with
      | some many =>
        rw [hmany, Option.some_or] at hsites
        cases hsites
        exact .many ⟨hv, hfirst⟩ hmany
      | none =>
        -- only now the list is taken for a call site
        rw [hmany, Option.none_or, Option.map_eq_some_iff] at hsites
        obtain ⟨site, hsite, rfl⟩ := hsites
        exact .row ⟨hv, hfirst⟩ hmany hsite

theorem sequence_isDocument_iff {cs : List Char} {xss : List (List CallSite)} :
    Json.Sequence IsDocument cs xss ↔ Json.documents document cs = .ok xss := by
  constructor
  · intro h
    exact Json.documents_of_sequence delimited_document (h.imp fun _ _ => isDocument_iff.1)
  · intro h
    exact (Json.sequence_of_documents delimited_document cs h).imp fun _ _ => isDocument_iff.2

/-- A text lists what its documents list. -/
theorem parse_eq_ok_iff {text : String} {sites : List CallSite} :
    parse text = .ok sites ↔
      ∃ xss, Json.Sequence IsDocument text.toList xss ∧ sites = xss.flatten := by
  simp only [sequence_isDocument_iff, parse]
  cases Json.documents document text.toList with
  | error f => simp [Except.map]
  | ok xss => simp [Except.map, eq_comm]

/-- A text fails by the first thing in it that is no document. -/
theorem parse_eq_error_iff {text : String} {f : Json.Fault} :
    parse text = .error f ↔ ∃ front xss c body, text.toList = front ++ c :: body ∧
      Json.Sequence IsDocument front xss ∧ Json.isSpace c = false ∧
      document (c :: body) = .error f := by
  have hparse : parse text = .error f ↔ Json.documents document text.toList = .error f := by
    rw [parse]
    cases Json.documents document text.toList <;> simp [Except.map]
  rw [hparse, Json.documents_eq_error_iff delimited_document]
  constructor
  · rintro ⟨front, xss, c, body, htext, hfront, hc, hbad⟩
    exact ⟨front, xss, c, body, htext, hfront.imp fun _ _ => isDocument_iff.2, hc, hbad⟩
  · rintro ⟨front, xss, c, body, htext, hfront, hc, hbad⟩
    exact ⟨front, xss, c, body, htext, hfront.imp fun _ _ => isDocument_iff.1, hc, hbad⟩

/-- A text of call sites can stand in front of any other: what the other lists is listed behind it,
and what is wrong with the other is what is wrong with both.  A text lists the call sites of its
documents, each once and in order, and nothing at all as soon as something in it is no document. -/
theorem texts_of_call_sites_concatenate :
    (∀ (a b : String) (xs : List CallSite), parse a = .ok xs →
      (∀ ys, parse b = .ok ys → parse (a ++ b) = .ok (xs ++ ys)) ∧
      (∀ f, parse b = .error f → parse (a ++ b) = .error f)) ∧
    (∀ (text : String) (sites : List CallSite), parse text = .ok sites ↔
      ∃ xss, Json.Sequence IsDocument text.toList xss ∧ sites = xss.flatten) ∧
    (∀ (text : String) (f : Json.Fault), parse text = .error f ↔
      ∃ front xss c body, text.toList = front ++ c :: body ∧
        Json.Sequence IsDocument front xss ∧ Json.isSpace c = false ∧
        document (c :: body) = .error f) := by
  refine ⟨fun a b xs ha => ⟨fun ys hb => ?_, fun f hb => ?_⟩, fun _ _ => parse_eq_ok_iff,
    fun _ _ => parse_eq_error_iff⟩
  · rw [parse_append ha, hb]
    rfl
  · rw [parse_append ha, hb]
    rfl

/-- A list of one call site. -/
def listed : String := "[\x7b\"pos\": \"a.go:1:2\"\x7d]"

/-- A list of two texts is a call site; behind a list of call sites, and with no space between
them, it is still one.  An object without a position is none there either. -/
theorem row_behind_list_is_call_site :
    parse listed = .ok [⟨"a.go:1:2", "", ""⟩] ∧
    parse (listed ++ "[\"b.go:3:4\",\"static\"]") =
      .ok [⟨"a.go:1:2", "", ""⟩, ⟨"b.go:3:4", "static", ""⟩] ∧
    parse (listed ++ "\x7b\"caller\":1e309") = .error .malformed ∧
    parse (listed ++ "\x7b\"caller\":1\x7d") = .error .mismatch := by
  have hlisted : parse listed = .ok [⟨"a.go:1:2", "", ""⟩] := by decide +kernel
  obtain ⟨happend, _⟩ := texts_of_call_sites_concatenate
  exact ⟨hlisted, (happend _ _ _ hlisted).1 _ (by decide +kernel),
    (happend _ _ _ hlisted).2 _ (by decide +kernel),
    (happend _ _ _ hlisted).2 _ (by decide +kernel)⟩

end CallSite

end MessageCatalog
