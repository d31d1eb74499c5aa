import MessageCatalog.Proofs.Quoting

/-! # The value of a well-formed literal

The body of an interpreted literal is a list of items: characters that stand for themselves and
escapes of four widths.  `Item.spelling` says how an item is written and `Item.bytes` which bytes
it denotes, without reference to the reader.

`Reads` is the property that carries the proofs: a text is read as its bytes whatever stands behind
it, so no item takes characters of the next.  It holds of each item (`Item.reads`) and is kept when
texts are put together (`Reads.append`, `reads_flatMap`).  The bytes of a character may come from
several items; only those of the whole body have to be UTF-8 (`decode_enclose_of_decodeBody`). -/

namespace MessageCatalog.Literal

/-! ### Digits -/

/-- A hexadecimal digit as it is written. -/
structure HexDigit where
  value : Fin 16
  /-- A letter is written in upper case. -/
  upper : Bool
deriving DecidableEq, Repr

namespace HexDigit

/-- The character of a digit. -/
def char (d : HexDigit) : Char :=
  if d.upper then (Nat.digitChar d.value).toUpper else Nat.digitChar d.value

theorem digit?_char (d : HexDigit) : Text.digit? 16 d.char = some d.value.val := by
  have hlower := Text.digitValue?_digitChar d.value d.value.isLt
  have hupper := Text.digitValue?_toUpper_digitChar d.value d.value.isLt
  rw [Text.digit?_eq_some_iff, char]
  cases d.upper with
  | true => exact ⟨hupper, d.value.isLt⟩
  | false => exact ⟨hlower, d.value.isLt⟩

/-- A digit is one byte long and no sign. -/
theorem char_plain (d : HexDigit) : d.char.utf8Size = 1 ∧ d.char ≠ '+' := by
  have hall : ∀ (v : Fin 16) (u : Bool),
      (HexDigit.mk v u).char.utf8Size = 1 ∧ (HexDigit.mk v u).char ≠ '+' := by decide
  exact hall d.value d.upper

/-- The characters of a run of digits. -/
def chars (ds : List HexDigit) : List Char := ds.map char

/-- The number that a run of digits names. -/
def number (ds : List HexDigit) : Nat := ds.foldl (fun n d => n * 16 + d.value.val) 0

theorem length_chars (ds : List HexDigit) : (chars ds).length = ds.length := by simp [chars]

theorem byteLength_chars (ds : List HexDigit) : Text.byteLength (chars ds) = ds.length := by
  induction ds with
  | nil => rfl
  | cons d ds ih =>
    have hd := d.char_plain.1
    simp only [chars, List.map_cons, Text.byteLength_cons, List.length_cons] at ih ⊢
    omega

theorem digits?_chars (ds : List HexDigit) : ∀ acc,
    Text.digits? 16 acc (chars ds) = some (ds.foldl (fun n d => n * 16 + d.value.val) acc) := by
  induction ds with
  | nil => exact fun _ => rfl
  | cons d ds ih =>
    intro acc
    simp only [chars, List.map_cons, Text.digits?, d.digit?_char, Option.bind_some]
    exact ih _

theorem unsigned?_chars {ds : List HexDigit} (h : ds ≠ []) :
    Text.unsigned? 16 (chars ds) = some (number ds) := by
  rw [Text.unsigned?]
  · exact digits?_chars ds 0
  · simpa [chars] using h

theorem numeral?_chars {ds : List HexDigit} (h : ds ≠ []) :
    Text.numeral? 16 (chars ds) = some (number ds) := by
  rw [Text.numeral?]
  · exact unsigned?_chars h
  · intro rest hplus
    obtain ⟨d, ds, rfl⟩ := List.exists_cons_of_ne_nil h
    exact d.char_plain.2 (List.cons.inj hplus).1

end HexDigit

/-! ### Items -/

/-- The escapes of one letter. -/
inductive LetterEscape where
  | alert | backspace | formFeed | newline | carriageReturn | tab | verticalTab
  | backslash | quote
deriving DecidableEq, Repr

namespace LetterEscape

/-- The letter of an escape. -/
def letter : LetterEscape → Char
  | alert => 'a'
  | backspace => 'b'
  | formFeed => 'f'
  | newline => 'n'
  | carriageReturn => 'r'
  | tab => 't'
  | verticalTab => 'v'
  | backslash => '\\'
  | quote => '\x22'

/-- The byte that an escape denotes. -/
def byte : LetterEscape → UInt8
  | alert => 7
  | backspace => 8
  | formFeed => 12
  | newline => 10
  | carriageReturn => 13
  | tab => 9
  | verticalTab => 11
  | backslash => 92
  | quote => 34

theorem letterEscape?_letter (e : LetterEscape) : letterEscape? e.letter = some e.byte := by
  cases e <;> rfl

end LetterEscape

/-- The two escapes that name a character by its number. -/
inductive ScalarForm where
  | short | long
deriving DecidableEq, Repr

namespace ScalarForm

/-- The letter of the escape. -/
def letter : ScalarForm → Char
  | short => 'u'
  | long => 'U'

/-- How many digits the escape has. -/
def width : ScalarForm → Nat
  | short => 4
  | long => 8

theorem width_pos (form : ScalarForm) : 0 < form.width := by cases form <;> decide

end ScalarForm

/-- An item of a well-formed body. -/
inductive Item where
  /-- A character that stands for itself. -/
  | plain (c : Char) (notBackslash : c ≠ '\\')
  /-- A backslash and a letter. -/
  | letter (e : LetterEscape)
  /-- A backslash and three octal digits that name a byte. -/
  | octal (a b c : Fin 8) (isByte : a.val * 64 + b.val * 8 + c.val ≤ 255)
  /-- `\x` and two hexadecimal digits. -/
  | byte (high low : HexDigit)
  /-- `\u` and four, or `\U` and eight, hexadecimal digits that name a Unicode scalar value. -/
  | scalar (form : ScalarForm) (digits : List HexDigit) (width : digits.length = form.width)
      (isScalar : (HexDigit.number digits).isValidChar)

namespace Item

/-- How an item is written. -/
def spelling : Item → List Char
  | plain c _ => [c]
  | letter e => ['\\', e.letter]
  | octal a b c _ => ['\\', Nat.digitChar a, Nat.digitChar b, Nat.digitChar c]
  | byte high low => ['\\', 'x', high.char, low.char]
  | scalar form digits _ _ => '\\' :: form.letter :: HexDigit.chars digits

/-- The bytes that an item denotes. -/
def bytes : Item → List UInt8
  | plain c _ => String.utf8EncodeChar c
  | letter e => [e.byte]
  | octal a b c _ => [(a.val * 64 + b.val * 8 + c.val).toUInt8]
  | byte high low => [(high.value.val * 16 + low.value.val).toUInt8]
  | scalar _ digits _ _ => String.utf8EncodeChar (Char.ofNat (HexDigit.number digits))

end Item

/-! ### Reading a text piece by piece -/

/-- The text is read as these bytes, whatever stands behind it. -/
def Reads (text : List Char) (bytes : List UInt8) : Prop :=
  ∀ rest, decodeBody (text ++ rest) = (decodeBody rest).map (bytes ++ ·)

theorem reads_nil : Reads [] [] := by
  intro rest
  rw [List.nil_append]
  cases decodeBody rest with
  | error e => rfl
  | ok bytes => rfl

theorem Reads.append {a b : List Char} {x y : List UInt8} (ha : Reads a x) (hb : Reads b y) :
    Reads (a ++ b) (x ++ y) := by
  intro rest
  rw [List.append_assoc, ha, hb]
  cases decodeBody rest with
  | error e => rfl
  | ok bytes => simp only [Except.map, List.append_assoc]

theorem Reads.decodeBody_eq {text : List Char} {bytes : List UInt8} (h : Reads text bytes) :
    decodeBody text = .ok bytes := by
  have hend : decodeBody [] = .ok [] := by rw [decodeBody]
  have htext := h []
  rw [List.append_nil, hend] at htext
  simpa only [Except.map, List.append_nil] using htext

/-- What is read piece by piece is read as the bytes of the pieces. -/
theorem reads_flatMap {α : Type} {spelling : α → List Char} {bytes : α → List UInt8}
    (h : ∀ a, Reads (spelling a) (bytes a)) (as : List α) :
    Reads (as.flatMap spelling) (as.flatMap bytes) := by
  induction as with
  | nil => exact reads_nil
  | cons a as ih =>
    rw [List.flatMap_cons, List.flatMap_cons]
    exact (h a).append ih

/-- An escape that takes the characters `tail` behind its letter, and no more. -/
theorem reads_escape {c : Char} {tail : List Char} {bytes : List UInt8}
    (h : ∀ rest, escape c (tail ++ rest) = .ok (bytes, tail.length)) :
    Reads ('\\' :: c :: tail) bytes := by
  intro rest
  have hbody := decodeBody_escape (h rest)
  rwa [List.drop_left] at hbody

/-! ### Escapes of numbers -/

theorem hexEscape_eq_ok_iff {letter : Char} {width n : Nat} {digits : List Char} :
    hexEscape letter width digits = .ok n ↔
      Text.byteLength digits = width ∧ Text.numeral? 16 digits = some n := by
  unfold hexEscape
  by_cases hw : Text.byteLength digits = width
  · simp only [hw, if_true, true_and]
    cases Text.numeral? 16 digits <;> simp
  · simp [hw]

/-- A run of digits is read as the number that it names. -/
theorem hexEscape_chars (letter : Char) {ds : List HexDigit} (h : ds ≠ []) :
    hexEscape letter ds.length (HexDigit.chars ds) = .ok (HexDigit.number ds) :=
  hexEscape_eq_ok_iff.2 ⟨HexDigit.byteLength_chars ds, HexDigit.numeral?_chars h⟩

theorem scalarEscape_of_isValidChar (letter : Char) {n : Nat} (h : n.isValidChar) :
    scalarEscape letter n = .ok (String.utf8EncodeChar (Char.ofNat n)) := by
  rw [scalarEscape, if_pos h]

theorem escape_byte_eq (rest : List Char) :
    escape 'x' rest = do return ([(← hexEscape 'x' 2 (rest.take 2)).toUInt8], 2) := rfl

theorem escape_scalar_eq (form : ScalarForm) (rest : List Char) :
    escape form.letter rest = do
      let n ← hexEscape form.letter form.width (rest.take form.width)
      return (← scalarEscape form.letter n, form.width) := by
  cases form <;> rfl

theorem escape_byte {digits rest : List Char} {n : Nat} (hlength : digits.length = 2)
    (h : hexEscape 'x' 2 digits = .ok n) :
    escape 'x' (digits ++ rest) = .ok ([n.toUInt8], digits.length) := by
  have htake : (digits ++ rest).take 2 = digits := by rw [← hlength, List.take_left]
  rw [escape_byte_eq, htake, h, hlength]
  rfl

theorem escape_scalar {form : ScalarForm} {digits rest : List Char} {n : Nat}
    (hlength : digits.length = form.width)
    (h : hexEscape form.letter form.width digits = .ok n) (hn : n.isValidChar) :
    escape form.letter (digits ++ rest) =
      .ok (String.utf8EncodeChar (Char.ofNat n), digits.length) := by
  have htake : (digits ++ rest).take form.width = digits := by rw [← hlength, List.take_left]
  have hbytes := scalarEscape_of_isValidChar form.letter hn
  rw [escape_scalar_eq, htake, h]
  simp only [bind, Except.bind, hbytes, hlength]
  rfl

theorem octalEscape_digitChars (a b c : Fin 8) (h : a.val * 64 + b.val * 8 + c.val ≤ 255) :
    octalEscape [Nat.digitChar a, Nat.digitChar b, Nat.digitChar c] =
      .ok (a.val * 64 + b.val * 8 + c.val).toUInt8 := by
  have hdigit : ∀ d : Fin 8, Text.digit? 8 (Nat.digitChar d) = some d.val := by
    intro d
    exact Text.digit?_digitChar (by decide) d.isLt
  have hnumber : (a.val * 8 + b.val) * 8 + c.val = a.val * 64 + b.val * 8 + c.val := by omega
  simp only [octalEscape, Text.digits?, hdigit, Option.bind_some, List.length_cons,
    List.length_nil, Nat.zero_mul, Nat.zero_add, hnumber]
  simp only [Nat.reduceAdd, BEq.rfl, if_pos (show a.val * 64 + b.val * 8 + c.val < 0x100 by omega)]

/-! ### Reading items -/

/-- An item is read as the bytes that it denotes. -/
theorem Item.reads (i : Item) : Reads i.spelling i.bytes := by
  cases i with
  | plain c notBackslash => exact decodeBody_plain notBackslash
  | letter e => exact reads_escape fun rest => escape_letter e.letterEscape?_letter rest
  | octal a b c isByte =>
    obtain ⟨hletter, hrange⟩ := isOctal_digitChar a a.isLt
    exact reads_escape fun rest =>
      escape_octal hletter hrange (octalEscape_digitChars a b c isByte) rest
  | byte high low =>
    have hhex := hexEscape_chars 'x' (List.cons_ne_nil high [low])
    have hnumber : HexDigit.number [high, low] = high.value.val * 16 + low.value.val := by
      simp [HexDigit.number]
    rw [hnumber] at hhex
    exact reads_escape fun rest => escape_byte rfl hhex
  | scalar form digits width isScalar =>
    have hne : digits ≠ [] := List.ne_nil_of_length_pos (width ▸ form.width_pos)
    have hhex := hexEscape_chars form.letter hne
    rw [width] at hhex
    exact reads_escape fun rest =>
      escape_scalar ((HexDigit.length_chars digits).trans width) hhex isScalar

/-! ### Whole literals -/

/-- A body between double quotes. -/
def enclose (body : List Char) : String := String.ofList ('\x22' :: (body ++ ['\x22']))

theorem decode_enclose (body : List Char) : decode (enclose body) = decodeInterpreted body := by
  rw [decode, enclose, String.toList_ofList, unwrap?_wrapped]

theorem fromUTF8?_eq_some_iff {bytes : ByteArray} {s : String} :
    String.fromUTF8? bytes = some s ↔ s.toUTF8 = bytes := by
  constructor
  · intro h
    rw [String.fromUTF8?] at h
    split at h
    · cases h
      rfl
    · cases h
  · rintro rfl
    have hvalid : s.toUTF8.IsValidUTF8 := s.isValidUTF8
    rw [String.fromUTF8?, dif_pos hvalid]
    rfl

theorem fromUTF8?_eq_none_iff {bytes : ByteArray} :
    String.fromUTF8? bytes = none ↔ ∀ s : String, s.toUTF8 ≠ bytes := by
  rw [Option.eq_none_iff_forall_ne_some]
  exact forall_congr' fun s => not_congr fromUTF8?_eq_some_iff

/-- A body whose bytes are known has the text with this encoding as its value, and no value if
there is no such text. -/
theorem decode_enclose_of_decodeBody {body : List Char} {bytes : List UInt8}
    (h : decodeBody body = .ok bytes) :
    decode (enclose body) = match String.fromUTF8? bytes.toByteArray with
      | some s => .ok s
      | none => .error .invalidUtf8 := by
  rw [decode_enclose, decodeInterpreted, h]
  simp only [bind, Except.bind]
  cases String.fromUTF8? bytes.toByteArray with
  | some s => rfl
  | none => rfl

end MessageCatalog.Literal

namespace MessageCatalog

open Literal

/-- A literal whose body is a list of items has the text whose encoding the bytes of the items
are, all together, as its value; if they are the encoding of no text, it is refused for that. -/
theorem well_formed_literals_have_their_values (items : List Item) :
    (∀ s : String, s.toUTF8 = (items.flatMap Item.bytes).toByteArray →
      decode (enclose (items.flatMap Item.spelling)) = .ok s) ∧
    ((∀ s : String, s.toUTF8 ≠ (items.flatMap Item.bytes).toByteArray) →
      decode (enclose (items.flatMap Item.spelling)) = .error .invalidUtf8) := by
  have hbody : decodeBody (items.flatMap Item.spelling) = .ok (items.flatMap Item.bytes) :=
    (reads_flatMap Item.reads items).decodeBody_eq
  have hdecode := decode_enclose_of_decodeBody hbody
  constructor
  · intro s hs
    rw [hdecode, fromUTF8?_eq_some_iff.2 hs]
  · intro hnone
    rw [hdecode, fromUTF8?_eq_none_iff.2 hnone]

/-- A character put together from three escapes, a digit right behind an octal escape, and a
character given by its number in upper case. -/
def assembled : List Item :=
  [.byte ⟨14, false⟩ ⟨6, false⟩, .byte ⟨9, false⟩ ⟨7, false⟩, .octal 2 4 5 (by decide),
    .plain '7' (by decide), .scalar .short [⟨0, true⟩, ⟨0, true⟩, ⟨14, true⟩, ⟨9, true⟩] rfl
      (by decide), .letter .quote]

/-- A byte that begins a character, and nothing to continue it. -/
def truncated : List Item := [.plain 'a' (by decide), .byte ⟨14, false⟩ ⟨6, false⟩]

/-- The bytes of several items can make one character, and those of one item may be none. -/
theorem assembled_literal_has_its_value :
    "日7é\"".toUTF8 = (assembled.flatMap Item.bytes).toByteArray ∧
    decode "\"\\xe6\\x97\\2457\\u00E9\\\"\"" = .ok "日7é\"" ∧
    (∀ s : String, s.toUTF8 ≠ (truncated.flatMap Item.bytes).toByteArray) ∧
    decode "\"a\\xe6\"" = .error .invalidUtf8 := by
  have hencoded : "日7é\"".toUTF8 = (assembled.flatMap Item.bytes).toByteArray := by decide
  have hnone : ∀ s : String, s.toUTF8 ≠ (truncated.flatMap Item.bytes).toByteArray :=
    fromUTF8?_eq_none_iff.1 (by decide +kernel)
  exact ⟨hencoded, (well_formed_literals_have_their_values assembled).1 _ hencoded, hnone,
    (well_formed_literals_have_their_values truncated).2 hnone⟩

end MessageCatalog
