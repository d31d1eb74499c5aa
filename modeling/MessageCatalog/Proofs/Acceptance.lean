import Mathlib.Data.List.Basic
import MessageCatalog.Proofs.Items
import MessageCatalog.Proofs.Parsing

/-! # What the reader of literals accepts

The digits of `\x`, `\u` and `\U` are read as a numeral, and a numeral may begin with a plus sign.
So besides the items of a well-formed body the reader accepts escapes in which a sign takes the
place of the first digit (`SignedEscape`), and nothing else: a body is accepted exactly if it is
made of such pieces, and its value is then the text that their bytes encode.  Every other body is
refused for an escape.  Where no sign stands behind `\x`, `\u` or `\U` the pieces are items.

Each reader has an inversion lemma that gives the piece behind a success
(`exists_digits_of_hexEscape`, `exists_piece_of_escape`); bodies follow by recursion
(`exists_pieces_of_decodeBody`). -/

namespace MessageCatalog.Literal

/-! ### Pieces -/

/-- An escape whose first digit is replaced by a plus sign. -/
inductive SignedEscape where
  | byte (digit : HexDigit)
  | scalar (form : ScalarForm) (digits : List HexDigit) (width : digits.length + 1 = form.width)
      (isScalar : (HexDigit.number digits).isValidChar)

namespace SignedEscape

/-- The letter of the escape. -/
def letter : SignedEscape → Char
  | byte _ => 'x'
  | scalar form _ _ _ => form.letter

/-- The digits behind the sign. -/
def digits : SignedEscape → List HexDigit
  | byte digit => [digit]
  | scalar _ digits _ _ => digits

/-- How the escape is written. -/
def spelling (s : SignedEscape) : List Char :=
  '\\' :: s.letter :: '+' :: HexDigit.chars s.digits

/-- The bytes that the escape is read as. -/
def bytes : SignedEscape → List UInt8
  | byte digit => [digit.value.val.toUInt8]
  | scalar _ digits _ _ => String.utf8EncodeChar (Char.ofNat (HexDigit.number digits))

/-- The letters behind which a sign is accepted. -/
theorem letter_mem (s : SignedEscape) : s.letter ∈ ['x', 'u', 'U'] := by
  cases s with
  | byte digit =>
    show 'x' ∈ ['x', 'u', 'U']
    decide
  | scalar form digits width isScalar =>
    show form.letter ∈ ['x', 'u', 'U']
    cases form <;> decide

end SignedEscape

/-- A piece of an accepted body. -/
inductive Piece where
  | item (i : Item)
  | signed (s : SignedEscape)

namespace Piece

/-- How a piece is written. -/
def spelling : Piece → List Char
  | item i => i.spelling
  | signed s => s.spelling

/-- The bytes that a piece is read as. -/
def bytes : Piece → List UInt8
  | item i => i.bytes
  | signed s => s.bytes

end Piece

/-! ### Pieces are accepted -/

theorem hexEscape_signed (letter : Char) {ds : List HexDigit} (h : ds ≠ []) :
    hexEscape letter (ds.length + 1) ('+' :: HexDigit.chars ds) = .ok (HexDigit.number ds) := by
  have hlength : Text.byteLength ('+' :: HexDigit.chars ds) = ds.length + 1 := by
    rw [Text.byteLength_cons, HexDigit.byteLength_chars]
    exact Nat.add_comm 1 ds.length
  exact hexEscape_eq_ok_iff.2 ⟨hlength, HexDigit.unsigned?_chars h⟩

theorem SignedEscape.reads (s : SignedEscape) : Reads s.spelling s.bytes := by
  cases s with
  | byte digit =>
    have hhex := hexEscape_signed 'x' (List.cons_ne_nil digit [])
    have hnumber : HexDigit.number [digit] = digit.value.val := by simp [HexDigit.number]
    rw [hnumber] at hhex
    exact reads_escape fun rest => escape_byte rfl hhex
  | scalar form digits width isScalar =>
    have hne : digits ≠ [] := by
      rintro rfl
      cases form <;> cases width
    have hhex := hexEscape_signed form.letter hne
    have hlength : ('+' :: HexDigit.chars digits).length = form.width := by
      rw [List.length_cons, HexDigit.length_chars, width]
    rw [width] at hhex
    exact reads_escape fun rest => escape_scalar hlength hhex isScalar

theorem Piece.reads (p : Piece) : Reads p.spelling p.bytes := by
  cases p with
  | item i => exact i.reads
  | signed s => exact s.reads

/-! ### What is accepted is a piece -/

theorem exists_hexDigit_of_digit? {c : Char} {n : Nat} (h : Text.digit? 16 c = some n) :
    ∃ d : HexDigit, d.char = c ∧ d.value.val = n := by
  obtain ⟨hvalue, hn⟩ := Text.digit?_eq_some_iff.1 h
  rcases Text.digitChar_eq_of_digitValue? hvalue hn with hc | hc
  · exact ⟨⟨⟨n, hn⟩, false⟩, hc, rfl⟩
  · exact ⟨⟨⟨n, hn⟩, true⟩, hc, rfl⟩

theorem exists_hexDigits_of_digits? : ∀ {cs : List Char} {acc n : Nat},
    Text.digits? 16 acc cs = some n →
      ∃ ds, cs = HexDigit.chars ds ∧ n = ds.foldl (fun n d => n * 16 + d.value.val) acc
  | [], acc, n, h => ⟨[], rfl, (Option.some.inj h).symm⟩
  | c :: cs, acc, n, h => by
      rw [Text.digits?] at h
      obtain ⟨m, hm, h⟩ := Option.bind_eq_some_iff.1 h
      obtain ⟨d, rfl, rfl⟩ := exists_hexDigit_of_digit? hm
      obtain ⟨ds, rfl, rfl⟩ := exists_hexDigits_of_digits? h
      exact ⟨d :: ds, rfl, rfl⟩

theorem exists_hexDigits_of_unsigned? {cs : List Char} {n : Nat}
    (h : Text.unsigned? 16 cs = some n) :
    ∃ ds, cs = HexDigit.chars ds ∧ n = HexDigit.number ds := by
  cases cs with
  | nil => cases h
  | cons c cs => exact exists_hexDigits_of_digits? h

/-- A hexadecimal escape is given by as many digits as it is wide, or by a sign and one digit
less. -/
theorem exists_digits_of_hexEscape {letter : Char} {width n : Nat} {cs : List Char}
    (h : hexEscape letter width cs = .ok n) :
    ∃ ds, n = HexDigit.number ds ∧
      (cs = HexDigit.chars ds ∧ ds.length = width ∨
        cs = '+' :: HexDigit.chars ds ∧ ds.length + 1 = width) := by
  obtain ⟨hlength, hnumeral⟩ := hexEscape_eq_ok_iff.1 h
  unfold Text.numeral? at hnumeral
  split at hnumeral
  · obtain ⟨ds, rfl, hn⟩ := exists_hexDigits_of_unsigned? hnumeral
    rw [Text.byteLength_cons, HexDigit.byteLength_chars] at hlength
    exact ⟨ds, hn, .inr ⟨rfl, by rw [← hlength, Nat.add_comm]; rfl⟩⟩
  · obtain ⟨ds, rfl, hn⟩ := exists_hexDigits_of_unsigned? hnumeral
    rw [HexDigit.byteLength_chars] at hlength
    exact ⟨ds, hn, .inl ⟨rfl, hlength⟩⟩

theorem exists_letter_of_letterEscape? {c : Char} {b : UInt8} (h : letterEscape? c = some b) :
    ∃ e : LetterEscape, e.letter = c ∧ e.byte = b := by
  unfold letterEscape? at h
  split at h
  case h_1 => exact ⟨.alert, rfl, Option.some.inj h⟩
  case h_2 => exact ⟨.backspace, rfl, Option.some.inj h⟩
  case h_3 => exact ⟨.formFeed, rfl, Option.some.inj h⟩
  case h_4 => exact ⟨.newline, rfl, Option.some.inj h⟩
  case h_5 => exact ⟨.carriageReturn, rfl, Option.some.inj h⟩
  case h_6 => exact ⟨.tab, rfl, Option.some.inj h⟩
  case h_7 => exact ⟨.verticalTab, rfl, Option.some.inj h⟩
  case h_8 => exact ⟨.backslash, rfl, Option.some.inj h⟩
  case h_9 => exact ⟨.quote, rfl, Option.some.inj h⟩
  case h_10 => cases h

theorem exists_octalDigit_of_digit? {c : Char} {n : Nat} (h : Text.digit? 8 c = some n) :
    ∃ d : Fin 8, Nat.digitChar d = c ∧ d.val = n := by
  have hsame : ∀ d < 8, (Nat.digitChar d).toUpper = Nat.digitChar d := by decide
  obtain ⟨hvalue, hn⟩ := Text.digit?_eq_some_iff.1 h
  rcases Text.digitChar_eq_of_digitValue? hvalue (by omega) with hc | hc
  · exact ⟨⟨n, hn⟩, hc, rfl⟩
  · rw [hsame n hn] at hc
    exact ⟨⟨n, hn⟩, hc, rfl⟩

/-- An octal escape has three digits that name a byte. -/
theorem exists_digits_of_octalEscape {cs : List Char} {x : UInt8} (h : octalEscape cs = .ok x) :
    ∃ a b c : Fin 8, a.val * 64 + b.val * 8 + c.val ≤ 255 ∧
      cs = [Nat.digitChar a, Nat.digitChar b, Nat.digitChar c] ∧
      x = (a.val * 64 + b.val * 8 + c.val).toUInt8 := by
  unfold octalEscape at h
  split at h
  case h_2 => cases h
  case h_1 n hlength hdigits =>
    split at h
    case isFalse => cases h
    case isTrue hn =>
      obtain ⟨c₁, c₂, c₃, rfl⟩ := List.length_eq_three.1 (beq_iff_eq.1 hlength)
      simp only [Text.digits?, Option.bind_eq_some_iff] at hdigits
      obtain ⟨_, ha, _, hb, _, hc, hvalue⟩ := hdigits
      obtain ⟨a, rfl, rfl⟩ := exists_octalDigit_of_digit? ha
      obtain ⟨b, rfl, rfl⟩ := exists_octalDigit_of_digit? hb
      obtain ⟨c, rfl, rfl⟩ := exists_octalDigit_of_digit? hc
      have hnumber : n = a.val * 64 + b.val * 8 + c.val := by
        rw [← Option.some.inj hvalue]
        omega
      subst hnumber
      exact ⟨a, b, c, by omega, rfl, (Except.ok.inj h).symm⟩

theorem isValidChar_of_scalarEscape {letter : Char} {n : Nat} {bytes : List UInt8}
    (h : scalarEscape letter n = .ok bytes) :
    n.isValidChar ∧ bytes = String.utf8EncodeChar (Char.ofNat n) := by
  rw [scalarEscape] at h
  split at h
  · exact ⟨‹_›, (Except.ok.inj h).symm⟩
  · cases h

theorem exists_piece_of_byte {rest : List Char} {bytes : List UInt8} {taken : Nat}
    (h : escape 'x' rest = .ok (bytes, taken)) :
    ∃ p : Piece, p.spelling = '\\' :: 'x' :: rest.take taken ∧ p.bytes = bytes := by
  rw [escape_byte_eq] at h
  obtain ⟨n, hn, h⟩ := bind_eq_ok h
  cases h
  obtain ⟨ds, rfl, ⟨hcs, hlength⟩ | ⟨hcs, hlength⟩⟩ := exists_digits_of_hexEscape hn
  · obtain ⟨high, low, rfl⟩ := List.length_eq_two.1 hlength
    refine ⟨.item (.byte high low), by rw [hcs]; rfl, ?_⟩
    simp [Piece.bytes, Item.bytes, HexDigit.number]
  · obtain ⟨digit, rfl⟩ := List.length_eq_one_iff.1 (Nat.succ.inj hlength)
    refine ⟨.signed (.byte digit), by rw [hcs]; rfl, ?_⟩
    simp [Piece.bytes, SignedEscape.bytes, HexDigit.number]

theorem exists_piece_of_scalar (form : ScalarForm) {rest : List Char} {bytes : List UInt8}
    {taken : Nat} (h : escape form.letter rest = .ok (bytes, taken)) :
    ∃ p : Piece, p.spelling = '\\' :: form.letter :: rest.take taken ∧ p.bytes = bytes := by
  rw [escape_scalar_eq] at h
  obtain ⟨n, hn, h⟩ := bind_eq_ok h
  obtain ⟨x, hx, h⟩ := bind_eq_ok h
  cases h
  obtain ⟨hvalid, rfl⟩ := isValidChar_of_scalarEscape hx
  obtain ⟨ds, rfl, ⟨hcs, hlength⟩ | ⟨hcs, hlength⟩⟩ := exists_digits_of_hexEscape hn
  · exact ⟨.item (.scalar form ds hlength hvalid), by rw [hcs]; rfl, rfl⟩
  · exact ⟨.signed (.scalar form ds hlength hvalid), by rw [hcs]; rfl, rfl⟩

/-- What is accepted as an escape is a piece. -/
theorem exists_piece_of_escape {c : Char} {rest : List Char} {bytes : List UInt8} {taken : Nat}
    (h : escape c rest = .ok (bytes, taken)) :
    ∃ p : Piece, p.spelling = '\\' :: c :: rest.take taken ∧ p.bytes = bytes := by
  unfold escape at h
  split at h
  · rename_i b hletter
    obtain ⟨e, rfl, rfl⟩ := exists_letter_of_letterEscape? hletter
    cases h
    exact ⟨.item (.letter e), rfl, rfl⟩
  split at h
  · obtain ⟨x, hx, h⟩ := bind_eq_ok h
    obtain ⟨a, b, c, hbyte, hcs, rfl⟩ := exists_digits_of_octalEscape hx
    cases h
    exact ⟨.item (.octal a b c hbyte), by rw [hcs]; rfl, rfl⟩
  split at h
  · exact exists_piece_of_byte h
  · exact exists_piece_of_scalar .short h
  · exact exists_piece_of_scalar .long h
  · cases h

/-- An accepted body is made of pieces. -/
theorem exists_pieces_of_decodeBody : ∀ {body : List Char} {bytes : List UInt8},
    decodeBody body = .ok bytes → ∃ pieces : List Piece,
      body = pieces.flatMap Piece.spelling ∧ bytes = pieces.flatMap Piece.bytes := by
  intro body
  fun_induction decodeBody body with
  | case1 =>
    rintro _ ⟨⟩
    exact ⟨[], rfl, rfl⟩
  | case2 =>
    rintro _ ⟨⟩
  | case3 c rest ih =>
    intro bytes h
    obtain ⟨⟨front, taken⟩, hescape, h⟩ := bind_eq_ok h
    obtain ⟨back, hback, h⟩ := bind_eq_ok h
    cases h
    obtain ⟨p, hspelling, rfl⟩ := exists_piece_of_escape hescape
    obtain ⟨pieces, hrest, rfl⟩ := ih taken hback
    refine ⟨p :: pieces, ?_, rfl⟩
    rw [List.flatMap_cons, hspelling, ← hrest, List.cons_append, List.cons_append,
      List.take_append_drop]
  | case4 c rest hend hescape ih =>
    have hc : c ≠ '\\' := by
      rintro rfl
      cases rest with
      | nil => exact hend rfl rfl
      | cons d rest => exact hescape d rest rfl rfl
    intro bytes h
    obtain ⟨back, hback, h⟩ := bind_eq_ok h
    cases h
    obtain ⟨pieces, rfl, rfl⟩ := ih hback
    exact ⟨.item (.plain c hc) :: pieces, rfl, rfl⟩

theorem decodeBody_eq_ok_iff {body : List Char} {bytes : List UInt8} :
    decodeBody body = .ok bytes ↔ ∃ pieces : List Piece,
      body = pieces.flatMap Piece.spelling ∧ bytes = pieces.flatMap Piece.bytes := by
  constructor
  · exact exists_pieces_of_decodeBody
  · rintro ⟨pieces, rfl, rfl⟩
    exact (reads_flatMap Piece.reads pieces).decodeBody_eq

/-! ### All else is refused for an escape -/

/-- Whatever is refused is refused for an escape. -/
def FailsByEscape {α : Type} (x : Except LiteralError α) : Prop :=
  ∀ e, x = .error e → ∃ written, e = .invalidEscape written

section refusals

variable {α β : Type}

theorem failsByEscape_ok (a : α) : FailsByEscape (.ok a) := by
  intro e h
  cases h

theorem failsByEscape_error (written : String) :
    FailsByEscape (.error (.invalidEscape written) : Except LiteralError α) := by
  rintro e ⟨⟩
  exact ⟨written, rfl⟩

theorem FailsByEscape.bind {x : Except LiteralError α} {f : α → Except LiteralError β}
    (hx : FailsByEscape x) (hf : ∀ a, FailsByEscape (f a)) : FailsByEscape (x >>= f) := by
  intro e h
  cases x with
  | error e' =>
    cases h
    exact hx e rfl
  | ok a => exact hf a e h

end refusals

theorem failsByEscape_octalEscape (cs : List Char) : FailsByEscape (octalEscape cs) := by
  unfold octalEscape
  split
  · split
    · exact failsByEscape_ok _
    · exact failsByEscape_error _
  · exact failsByEscape_error _

theorem failsByEscape_hexEscape (letter : Char) (width : Nat) (cs : List Char) :
    FailsByEscape (hexEscape letter width cs) := by
  unfold hexEscape
  split
  · split
    · exact failsByEscape_ok _
    · exact failsByEscape_error _
  · exact failsByEscape_error _

theorem failsByEscape_scalarEscape (letter : Char) (n : Nat) :
    FailsByEscape (scalarEscape letter n) := by
  unfold scalarEscape
  split
  · exact failsByEscape_ok _
  · exact failsByEscape_error _

theorem failsByEscape_escape (c : Char) (rest : List Char) : FailsByEscape (escape c rest) := by
  unfold escape
  split
  · exact failsByEscape_ok _
  split
  · exact (failsByEscape_octalEscape _).bind fun _ => failsByEscape_ok _
  split
  · exact (failsByEscape_hexEscape _ _ _).bind fun _ => failsByEscape_ok _
  · exact (failsByEscape_hexEscape _ _ _).bind fun _ =>
      (failsByEscape_scalarEscape _ _).bind fun _ => failsByEscape_ok _
  · exact (failsByEscape_hexEscape _ _ _).bind fun _ =>
      (failsByEscape_scalarEscape _ _).bind fun _ => failsByEscape_ok _
  · exact failsByEscape_error _

theorem failsByEscape_decodeBody (body : List Char) : FailsByEscape (decodeBody body) := by
  fun_induction decodeBody body with
  | case1 => exact failsByEscape_ok _
  | case2 => exact failsByEscape_error _
  | case3 c rest ih =>
    exact (failsByEscape_escape c rest).bind fun r => (ih r.2).bind fun _ => failsByEscape_ok _
  | case4 c rest _ _ ih => exact ih.bind fun _ => failsByEscape_ok _

theorem decode_enclose_of_error {body : List Char} {e : LiteralError}
    (h : decodeBody body = .error e) : decode (enclose body) = .error e := by
  rw [decode_enclose, decodeInterpreted, h]
  rfl

/-- A literal has a value exactly if its body is made of pieces whose bytes encode it. -/
theorem decode_enclose_eq_ok_iff {body : List Char} {v : String} :
    decode (enclose body) = .ok v ↔ ∃ pieces : List Piece,
      body = pieces.flatMap Piece.spelling ∧
        v.toUTF8 = (pieces.flatMap Piece.bytes).toByteArray := by
  constructor
  · intro h
    cases hbody : decodeBody body with
    | error e =>
      rw [decode_enclose_of_error hbody] at h
      cases h
    | ok bytes =>
      obtain ⟨pieces, hspelling, rfl⟩ := decodeBody_eq_ok_iff.1 hbody
      refine ⟨pieces, hspelling, ?_⟩
      rw [decode_enclose_of_decodeBody hbody] at h
      split at h
      · rename_i s hs
        cases h
        exact fromUTF8?_eq_some_iff.1 hs
      · cases h
  · rintro ⟨pieces, hspelling, hv⟩
    rw [decode_enclose_of_decodeBody (decodeBody_eq_ok_iff.2 ⟨pieces, hspelling, rfl⟩),
      fromUTF8?_eq_some_iff.2 hv]

/-- A literal is refused for an escape exactly if its body is not made of pieces. -/
theorem decode_enclose_refused_iff {body : List Char} :
    (∃ written, decode (enclose body) = .error (.invalidEscape written)) ↔
      ¬∃ pieces : List Piece, body = pieces.flatMap Piece.spelling := by
  constructor
  · rintro ⟨written, h⟩ ⟨pieces, hspelling⟩
    rw [decode_enclose_of_decodeBody (decodeBody_eq_ok_iff.2 ⟨pieces, hspelling, rfl⟩)] at h
    split at h <;> cases h
  · intro hnone
    cases hbody : decodeBody body with
    | ok bytes =>
      obtain ⟨pieces, hspelling, _⟩ := decodeBody_eq_ok_iff.1 hbody
      exact absurd ⟨pieces, hspelling⟩ hnone
    | error e =>
      obtain ⟨written, rfl⟩ := failsByEscape_decodeBody body e hbody
      exact ⟨written, decode_enclose_of_error hbody⟩

/-! ### Bodies without signs -/

/-- No sign stands behind `\x`, `\u` or `\U` where an escape begins after items. -/
def Unsigned (body : List Char) : Prop :=
  ∀ (front : List Item), ∀ letter ∈ ['x', 'u', 'U'],
    ¬front.flatMap Item.spelling ++ ['\\', letter, '+'] <+: body

theorem unsigned_of_not_mem {body : List Char} (h : '+' ∉ body) : Unsigned body := by
  intro front letter _ hpre
  exact h (hpre.subset (by simp))

/-- No item has a sign in the place of its first digit. -/
theorem Item.not_signed (i : Item) (rest : List Char) {letter : Char}
    (hletter : letter ∈ ['x', 'u', 'U']) : ¬['\\', letter, '+'] <+: i.spelling ++ rest := by
  intro hpre
  cases i with
  | plain c notBackslash =>
    exact notBackslash (List.cons_prefix_cons.1 hpre).1.symm
  | letter e =>
    have he := (List.cons_prefix_cons.1 (List.cons_prefix_cons.1 hpre).2).1
    rw [he] at hletter
    revert hletter
    cases e <;> decide
  | octal a b c isByte =>
    have ha := (List.cons_prefix_cons.1 (List.cons_prefix_cons.1 hpre).2).1
    rw [ha] at hletter
    revert hletter
    have hall : ∀ d < 8, Nat.digitChar d ∉ ['x', 'u', 'U'] := by decide
    exact hall a a.isLt
  | byte high low =>
    have hsign := (List.cons_prefix_cons.1
      (List.cons_prefix_cons.1 (List.cons_prefix_cons.1 hpre).2).2).1
    exact high.char_plain.2 hsign.symm
  | scalar form digits width isScalar =>
    obtain ⟨d, ds, rfl⟩ := List.exists_cons_of_length_pos (width ▸ form.width_pos)
    have hsign := (List.cons_prefix_cons.1
      (List.cons_prefix_cons.1 (List.cons_prefix_cons.1 hpre).2).2).1
    exact d.char_plain.2 hsign.symm

/-- Pieces that make up a body without signs are items. -/
theorem exists_items_of_unsigned : ∀ {pieces : List Piece},
    Unsigned (pieces.flatMap Piece.spelling) → ∃ items : List Item, pieces = items.map .item
  | [], _ => ⟨[], rfl⟩
  | .item i :: pieces, h => by
      have hrest : Unsigned (pieces.flatMap Piece.spelling) := by
        intro front letter hletter hpre
        apply h (i :: front) letter hletter
        rw [List.flatMap_cons, List.flatMap_cons, List.append_assoc]
        exact (List.prefix_append_right_inj _).2 hpre
      obtain ⟨items, rfl⟩ := exists_items_of_unsigned hrest
      exact ⟨i :: items, rfl⟩
  | .signed s :: pieces, h => by
      have hsigned : ['\\', s.letter, '+'] <+: (Piece.signed s :: pieces).flatMap Piece.spelling :=
        List.prefix_append ['\\', s.letter, '+'] _
      exact absurd hsigned (h [] s.letter s.letter_mem)

theorem spelling_items (items : List Item) :
    (items.map Piece.item).flatMap Piece.spelling = items.flatMap Item.spelling :=
  List.flatMap_map _ _ items

theorem bytes_items (items : List Item) :
    (items.map Piece.item).flatMap Piece.bytes = items.flatMap Item.bytes :=
  List.flatMap_map _ _ items

theorem exists_pieces_iff_of_unsigned {body : List Char} (h : Unsigned body)
    (P : List UInt8 → Prop) :
    (∃ pieces : List Piece, body = pieces.flatMap Piece.spelling ∧ P (pieces.flatMap Piece.bytes)) ↔
      ∃ items : List Item, body = items.flatMap Item.spelling ∧ P (items.flatMap Item.bytes) := by
  constructor
  · rintro ⟨pieces, rfl, hP⟩
    obtain ⟨items, rfl⟩ := exists_items_of_unsigned h
    exact ⟨items, spelling_items items, bytes_items items ▸ hP⟩
  · rintro ⟨items, rfl, hP⟩
    exact ⟨items.map .item, (spelling_items items).symm, (bytes_items items).symm ▸ hP⟩

end MessageCatalog.Literal

namespace MessageCatalog

open Literal

/-- A literal is accepted exactly if its body is made of pieces: items, or escapes with a sign in
the place of their first digit.  Its value is then the text that the bytes of the pieces encode, and
a body that is not made of pieces is refused for an escape.  Where no escape has a sign, the
well-formed literals are accepted, with the value of their items, and no others. -/
theorem accepted_literals_are_made_of_pieces (body : List Char) :
    (∀ v, decode (enclose body) = .ok v ↔ ∃ pieces : List Piece,
      body = pieces.flatMap Piece.spelling ∧
        v.toUTF8 = (pieces.flatMap Piece.bytes).toByteArray) ∧
    ((∃ written, decode (enclose body) = .error (.invalidEscape written)) ↔
      ¬∃ pieces : List Piece, body = pieces.flatMap Piece.spelling) ∧
    (Unsigned body →
      (∀ v, decode (enclose body) = .ok v ↔ ∃ items : List Item,
        body = items.flatMap Item.spelling ∧
          v.toUTF8 = (items.flatMap Item.bytes).toByteArray) ∧
      ((∃ written, decode (enclose body) = .error (.invalidEscape written)) ↔
        ¬∃ items : List Item, body = items.flatMap Item.spelling)) := by
  refine ⟨fun v => decode_enclose_eq_ok_iff, decode_enclose_refused_iff, fun h => ⟨fun v => ?_, ?_⟩⟩
  · rw [decode_enclose_eq_ok_iff]
    exact exists_pieces_iff_of_unsigned h (v.toUTF8 = ·.toByteArray)
  · have hiff := exists_pieces_iff_of_unsigned h fun _ => True
    simp only [and_true] at hiff
    rw [decode_enclose_refused_iff, hiff]

/-- Two digits are accepted as an item, and one digit is refused. -/
theorem unsigned_escapes_are_items :
    Unsigned ['\\', 'x', '4', 'A'] ∧ decode "\"\\x4A\"" = .ok "J" ∧
    (∃ items : List Item, ['\\', 'x', '4', 'A'] = items.flatMap Item.spelling ∧
      "J".toUTF8 = (items.flatMap Item.bytes).toByteArray) ∧
    Unsigned ['\\', 'x', '4'] ∧ decode "\"\\x4\"" = .error (.invalidEscape "x4") ∧
    ¬∃ items : List Item, ['\\', 'x', '4'] = items.flatMap Item.spelling := by
  have hlong : Unsigned ['\\', 'x', '4', 'A'] := unsigned_of_not_mem (by decide)
  have hshort : Unsigned ['\\', 'x', '4'] := unsigned_of_not_mem (by decide)
  have haccepted : decode "\"\\x4A\"" = .ok "J" := by decide +kernel
  have hrefused : decode "\"\\x4\"" = .error (.invalidEscape "x4") := by decide +kernel
  obtain ⟨_, _, hitems⟩ := accepted_literals_are_made_of_pieces ['\\', 'x', '4', 'A']
  obtain ⟨_, _, hnone⟩ := accepted_literals_are_made_of_pieces ['\\', 'x', '4']
  exact ⟨hlong, haccepted, ((hitems hlong).1 _).1 haccepted, hshort, hrefused,
    (hnone hshort).2.1 ⟨_, hrefused⟩⟩

/-- A sign in the place of the first digit is accepted, although no item is written so. -/
theorem signed_escape_is_accepted :
    decode "\"\\x+f\"" = .ok "\x0f" ∧
      ¬∃ items : List Item, ['\\', 'x', '+', 'f'] = items.flatMap Item.spelling := by
  refine ⟨by decide +kernel, ?_⟩
  rintro ⟨items, hitems⟩
  cases items with
  | nil => cases hitems
  | cons i items =>
    rw [List.flatMap_cons] at hitems
    apply i.not_signed (items.flatMap Item.spelling) (show 'x' ∈ ['x', 'u', 'U'] by decide)
    rw [← hitems]
    exact List.prefix_append ['\\', 'x', '+'] ['f']

end MessageCatalog
