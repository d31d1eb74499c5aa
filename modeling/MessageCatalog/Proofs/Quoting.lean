import MessageCatalog.Catalog.Entry
import MessageCatalog.Literal.Decode

/-! # Quoting is undone by decoding

The reader of a literal body takes one piece after the other: a character that stands for itself,
or an escape.  `QuotedForm` lists the pieces that quoting writes, one for each character, and
`decodeBody_quoteChar` says that reading such a piece gives the bytes of its character, whatever
stands behind it.  Hence a quoted message decodes to the message (`decode_quote`), and different
messages are quoted differently. -/

namespace MessageCatalog.Literal

/-! ### Reading one piece -/

theorem decodeBody_plain {c : Char} (h : c ≠ '\\') (rest : List Char) :
    decodeBody (c :: rest) = (decodeBody rest).map (String.utf8EncodeChar c ++ ·) := by
  rw [decodeBody]
  · cases decodeBody rest with
    | error e => rfl
    | ok bytes => rfl
  · intro hc
    exact absurd hc h
  · intro d tail hc
    exact absurd hc h

theorem decodeBody_escape {c : Char} {rest : List Char} {bytes : List UInt8} {taken : Nat}
    (h : escape c rest = .ok (bytes, taken)) :
    decodeBody ('\\' :: c :: rest) = (decodeBody (rest.drop taken)).map (bytes ++ ·) := by
  rw [decodeBody, h]
  simp only [bind, Except.bind]
  cases decodeBody (rest.drop taken) with
  | error e => rfl
  | ok bytes => rfl

theorem escape_letter {c : Char} {b : UInt8} (h : letterEscape? c = some b) (rest : List Char) :
    escape c rest = .ok ([b], 0) := by
  unfold escape
  rw [h]

theorem escape_octal {c d e : Char} {b : UInt8} (hc : letterEscape? c = none)
    (hoctal : '0' ≤ c ∧ c ≤ '7') (h : octalEscape [c, d, e] = .ok b) (rest : List Char) :
    escape c (d :: e :: rest) = .ok ([b], 2) := by
  unfold escape
  rw [hc]
  simp only [if_pos hoctal, List.take_succ_cons, List.take_zero, h]
  rfl

/-! ### Octal digits -/

theorem isOctal_digitChar : ∀ d < 8, letterEscape? (Nat.digitChar d) = none ∧
    '0' ≤ Nat.digitChar d ∧ Nat.digitChar d ≤ '7' := by
  decide

theorem digits?_octalDigits {n : Nat} (h : n < 512) :
    Text.digits? 8 0 (octalDigits n) = some n := by
  have hdigit : ∀ m, Text.digit? 8 (Nat.digitChar (m % 8)) = some (m % 8) := by
    intro m
    exact Text.digit?_digitChar (by decide) (Nat.mod_lt _ (by decide))
  simp only [octalDigits, Text.digits?, hdigit, Option.bind_some, Option.some.injEq]
  omega

theorem octalEscape_octalDigits {n : Nat} (h : n < 256) :
    octalEscape (octalDigits n) = .ok n.toUInt8 := by
  unfold octalEscape
  rw [digits?_octalDigits (by omega)]
  simp [octalDigits, h]

theorem decodeBody_octalDigits {n : Nat} (h : n < 256) (rest : List Char) :
    decodeBody ('\\' :: octalDigits n ++ rest) = (decodeBody rest).map ([n.toUInt8] ++ ·) := by
  obtain ⟨hletter, hoctal⟩ := isOctal_digitChar (n / 64 % 8) (Nat.mod_lt _ (by decide))
  exact decodeBody_escape (escape_octal hletter hoctal (octalEscape_octalDigits h) rest)

/-! ### How characters are quoted -/

/-- The three ways to write a character between quotes. -/
inductive QuotedForm (c : Char) : List Char → Prop where
  /-- A backslash and a letter that names the byte of the character. -/
  | letter {e : Char} {b : UInt8} (named : letterEscape? e = some b)
      (byte : String.utf8EncodeChar c = [b]) : QuotedForm c ['\\', e]
  /-- A backslash and the octal digits of a control character. -/
  | octal (control : isControl c = true) : QuotedForm c ('\\' :: octalDigits c.toNat)
  /-- The character itself. -/
  | plain (notBackslash : c ≠ '\\') (notQuote : c ≠ '\x22') (notControl : isControl c = false) :
      QuotedForm c [c]

theorem quotedForm_quoteChar (c : Char) : QuotedForm c (quoteChar c) := by
  unfold quoteChar
  split
  case h_10 hb hq _ _ _ _ _ _ _ =>
    split
    · rename_i h
      exact .octal h
    · rename_i h
      exact .plain hb hq (by simpa using h)
  all_goals exact .letter rfl rfl

theorem toNat_lt_of_isControl {c : Char} (h : isControl c = true) : c.toNat < 128 := by
  simp only [isControl, Bool.or_eq_true, decide_eq_true_eq, beq_iff_eq] at h
  omega

theorem utf8EncodeChar_of_lt {c : Char} (h : c.toNat < 128) :
    String.utf8EncodeChar c = [c.toNat.toUInt8] := by
  have h' : c.val.toNat ≤ 127 := by
    show c.toNat ≤ 127
    omega
  rw [String.utf8EncodeChar, if_pos h']
  rfl

theorem isControl_of_letterEscape? {e : Char} {b : UInt8} (h : letterEscape? e = some b) :
    isControl e = false := by
  unfold letterEscape? at h
  split at h
  case h_10 => cases h
  all_goals rfl

theorem isControl_digitChar : ∀ d < 8, isControl (Nat.digitChar d) = false := by
  decide

/-- No control character is written between quotes. -/
theorem isControl_of_mem_quoteChar {c d : Char} (h : d ∈ quoteChar c) : isControl d = false := by
  have hform := quotedForm_quoteChar c
  generalize quoteChar c = written at hform h
  cases hform with
  | letter named _ =>
    rcases List.mem_cons.1 h with rfl | h
    · rfl
    · rw [List.mem_singleton.1 h]
      exact isControl_of_letterEscape? named
  | octal _ =>
    have hdigit : ∀ m, isControl (Nat.digitChar (m % 8)) = false := by
      intro m
      exact isControl_digitChar _ (Nat.mod_lt _ (by decide))
    simp only [octalDigits, List.mem_cons, List.not_mem_nil, or_false] at h
    rcases h with rfl | rfl | rfl | rfl
    · rfl
    all_goals exact hdigit _
  | plain _ _ notControl =>
    rw [List.mem_singleton.1 h]
    exact notControl

theorem isControl_of_mem_quote {s : String} {d : Char} (h : d ∈ (quote s).toList) :
    isControl d = false := by
  rw [quote, String.toList_ofList, List.mem_cons, List.mem_append, List.mem_singleton] at h
  rcases h with rfl | h | rfl
  · rfl
  · obtain ⟨c, _, hc⟩ := List.mem_flatMap.1 h
    exact isControl_of_mem_quoteChar hc
  · rfl

/-! ### Reading what was quoted -/

/-- Reading a quoted character gives its bytes. -/
theorem decodeBody_quoteChar (c : Char) (rest : List Char) :
    decodeBody (quoteChar c ++ rest) =
      (decodeBody rest).map (String.utf8EncodeChar c ++ ·) := by
  have hform := quotedForm_quoteChar c
  generalize quoteChar c = written at hform
  cases hform with
  | letter named byte =>
    rw [byte]
    exact decodeBody_escape (escape_letter named rest)
  | octal control =>
    have hlt := toNat_lt_of_isControl control
    rw [utf8EncodeChar_of_lt hlt]
    exact decodeBody_octalDigits (by omega) rest
  | plain notBackslash _ _ => exact decodeBody_plain notBackslash rest

/-- Reading quoted characters gives their bytes. -/
theorem decodeBody_flatMap_quoteChar : ∀ (cs : List Char),
    decodeBody (cs.flatMap quoteChar) = .ok (cs.flatMap String.utf8EncodeChar)
  | [] => by
      rw [List.flatMap_nil, decodeBody]
      rfl
  | c :: cs => by
      rw [List.flatMap_cons, decodeBody_quoteChar, decodeBody_flatMap_quoteChar cs]
      rfl

theorem fromUTF8?_utf8Encode (cs : List Char) :
    String.fromUTF8? (cs.flatMap String.utf8EncodeChar).toByteArray = some (String.ofList cs) := by
  have hvalid : (cs.flatMap String.utf8EncodeChar).toByteArray.IsValidUTF8 :=
    (String.ofList cs).isValidUTF8
  rw [String.fromUTF8?, dif_pos hvalid]
  rfl

theorem unwrap?_wrapped (quote : Char) (body : List Char) :
    unwrap? quote (quote :: (body ++ [quote])) = some body := by
  simp [unwrap?]

/-- Decoding a quoted message gives the message. -/
theorem decode_quote (s : String) : decode (quote s) = .ok s := by
  unfold decode quote
  rw [String.toList_ofList, unwrap?_wrapped]
  simp only [decodeInterpreted, decodeBody_flatMap_quoteChar, bind, Except.bind,
    fromUTF8?_utf8Encode, String.ofList_toList]
  rfl

theorem quote_injective : Function.Injective quote := by
  intro s t h
  have hs := decode_quote s
  rw [h, decode_quote t, Except.ok.injEq] at hs
  exact hs.symm

end MessageCatalog.Literal

namespace MessageCatalog

theorem Entry.text_eq_of_msgid_eq {e f : Entry} (h : e.msgid = f.msgid) : e.text = f.text :=
  Option.map_injective Literal.quote_injective h

/-- Quoting loses nothing: every message is decoded from its quoted form, so quoting is
injective, and entries with different messages have different identifiers. -/
theorem quoting_loses_nothing :
    (∀ s, Literal.decode (Literal.quote s) = .ok s) ∧ Function.Injective Literal.quote ∧
      ∀ e f : Entry, e.text ≠ f.text → e.msgid ≠ f.msgid :=
  ⟨Literal.decode_quote, Literal.quote_injective,
    fun _ _ hne h => hne (Entry.text_eq_of_msgid_eq h)⟩

/-- A digit behind an octal escape is not taken for one of its digits. -/
theorem quoting_keeps_digits_apart :
    Literal.decode (Literal.quote "\x017\"\\n日") = .ok "\x017\"\\n日" ∧
      Literal.quote "\x017" ≠ Literal.quote "\x0f" ∧
      (Entry.found ⟨"a.go", 1, 2⟩ "\x017" none).msgid ≠
        (Entry.found ⟨"a.go", 1, 2⟩ "\x0f" none).msgid :=
  ⟨quoting_loses_nothing.1 _, fun h => absurd (quoting_loses_nothing.2.1 h) (by decide),
    quoting_loses_nothing.2.2 _ _ (by decide)⟩

end MessageCatalog
