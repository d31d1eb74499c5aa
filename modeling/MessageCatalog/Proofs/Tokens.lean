import Mathlib.Data.List.Infix
import MessageCatalog.Proofs.Acceptance

/-! # A quoted message is one token

The readers of a template find the end of a message without decoding it: from the opening quote on
they skip the character after each backslash, up to the first double quote that is not skipped.
`scan` is such a scanner; it knows nothing of how messages are quoted.

`Passes` is the property that carries the proofs: the scanner goes over a text whatever stands
behind it, so it comes out in phase, and every backslash that it meets there starts an escape.  It
holds of each quoted character (`passes_quoteChar`) and is kept when texts are put together
(`Passes.append`).  The scanner therefore comes to the closing quote of a message and stops
(`exists_scan_quote`). -/

namespace MessageCatalog.Literal

/-! ### A scanner of tokens -/

/-- What a scanner finds: the places of the backslashes that it meets, and that of the double quote
at which it stops. -/
structure Token where
  backslashes : List Nat
  closing : Nat
deriving DecidableEq, Repr

namespace Token

/-- The token with backslashes that are met before its own. -/
def after (places : List Nat) (t : Token) : Token :=
  { t with backslashes := places ++ t.backslashes }

theorem after_nil : after [] = id := rfl

theorem after_comp_after (a b : List Nat) : after a ∘ after b = after (a ++ b) := by
  funext t
  simp only [Function.comp_apply, after, List.append_assoc]

end Token

/-- Scan the text from place `i` on up to a double quote; the character after a backslash is
skipped. -/
def scanFrom (i : Nat) : List Char → Option Token
  | [] => none
  | '\x22' :: _ => some ⟨[], i⟩
  | '\\' :: [] => none
  | '\\' :: _ :: cs => (scanFrom (i + 2) cs).map (Token.after [i])
  | _ :: cs => scanFrom (i + 1) cs

/-- Scan a text that starts with a double quote. -/
def scan : List Char → Option Token
  | '\x22' :: cs => scanFrom 1 cs
  | _ => none

/-- The text starts with a backslash and one of nine characters, or with a backslash and three
octal digits. -/
def StartsEscape (text : List Char) : Prop :=
  (∃ e : LetterEscape, ['\\', e.letter] <+: text) ∨
    ∃ a b c : Fin 8, ['\\', Nat.digitChar a, Nat.digitChar b, Nat.digitChar c] <+: text

theorem StartsEscape.mono {a b : List Char} (h : a <+: b) (ha : StartsEscape a) :
    StartsEscape b := by
  rcases ha with ⟨e, he⟩ | ⟨x, y, z, hd⟩
  · exact .inl ⟨e, he.trans h⟩
  · exact .inr ⟨x, y, z, hd.trans h⟩

theorem scanFrom_plain {c : Char} (hquote : c ≠ '\x22') (hbackslash : c ≠ '\\') (i : Nat)
    (rest : List Char) : scanFrom i (c :: rest) = scanFrom (i + 1) rest := by
  rw [scanFrom]
  · exact fun h => hquote h
  · exact fun h _ => hbackslash h
  · exact fun d tail h _ => hbackslash h

/-! ### Texts that a scanner goes over -/

/-- Whatever stands behind the text, a scanner goes over it; the backslashes that it meets there
stand at these places of the text, and each of them starts an escape. -/
structure Passes (text : List Char) (places : List Nat) : Prop where
  scans : ∀ i rest, scanFrom i (text ++ rest) =
    (scanFrom (i + text.length) rest).map (Token.after (places.map (i + ·)))
  escapes : ∀ k ∈ places, StartsEscape (text.drop k)

theorem passes_nil : Passes [] [] where
  scans i rest := by
    rw [List.map_nil, Token.after_nil, Option.map_id]
    rfl
  escapes k hk := absurd hk List.not_mem_nil

theorem passes_plain {c : Char} (hquote : c ≠ '\x22') (hbackslash : c ≠ '\\') :
    Passes [c] [] where
  scans i rest := by
    rw [List.map_nil, Token.after_nil, Option.map_id]
    exact scanFrom_plain hquote hbackslash i rest
  escapes k hk := absurd hk List.not_mem_nil

theorem passes_letter (e : LetterEscape) : Passes ['\\', e.letter] [0] where
  scans _ _ := rfl
  escapes k hk := by
    rw [List.mem_singleton.1 hk]
    exact .inl ⟨e, List.prefix_refl _⟩

theorem Passes.append {a b : List Char} {x y : List Nat} (ha : Passes a x) (hb : Passes b y) :
    Passes (a ++ b) (x ++ y.map (a.length + ·)) where
  scans i rest := by
    have hplaces : (x ++ y.map (a.length + ·)).map (i + ·) =
        x.map (i + ·) ++ y.map (i + a.length + ·) := by
      simp only [List.map_append, List.map_map, Function.comp_def, Nat.add_assoc]
    rw [List.append_assoc, ha.scans, hb.scans, Option.map_map, Token.after_comp_after, hplaces,
      List.length_append, Nat.add_assoc]
  escapes k hk := by
    rcases List.mem_append.1 hk with hk | hk
    · exact (ha.escapes k hk).mono (List.IsPrefix.drop (List.prefix_append a b) k)
    · obtain ⟨j, hj, rfl⟩ := List.mem_map.1 hk
      rw [List.drop_length_add_append]
      exact hb.escapes j hj

theorem digitChar_not_special : ∀ d : Fin 8,
    Nat.digitChar d ≠ '\x22' ∧ Nat.digitChar d ≠ '\\' := by
  decide

theorem passes_octal (a b c : Fin 8) :
    Passes ['\\', Nat.digitChar a, Nat.digitChar b, Nat.digitChar c] [0] where
  scans i rest := by
    -- the first digit is skipped with the backslash, the others are plain characters
    show (scanFrom (i + 2) (Nat.digitChar b :: Nat.digitChar c :: rest)).map (Token.after [i]) = _
    rw [scanFrom_plain (digitChar_not_special b).1 (digitChar_not_special b).2,
      scanFrom_plain (digitChar_not_special c).1 (digitChar_not_special c).2]
    rfl
  escapes k hk := by
    rw [List.mem_singleton.1 hk]
    exact .inr ⟨a, b, c, List.prefix_refl _⟩

/-- A scanner goes over every quoted character. -/
theorem passes_quoteChar (c : Char) : ∃ places, Passes (quoteChar c) places := by
  have hform := quotedForm_quoteChar c
  generalize quoteChar c = written at hform
  cases hform with
  | letter named _ =>
    obtain ⟨e, rfl, _⟩ := exists_letter_of_letterEscape? named
    exact ⟨[0], passes_letter e⟩
  | octal _ =>
    have hdigit : ∀ m, m % 8 < 8 := fun m => Nat.mod_lt m (by decide)
    exact ⟨[0], passes_octal ⟨_, hdigit _⟩ ⟨_, hdigit _⟩ ⟨_, hdigit _⟩⟩
  | plain notBackslash notQuote _ => exact ⟨[], passes_plain notQuote notBackslash⟩

theorem passes_flatMap_quoteChar (cs : List Char) :
    ∃ places, Passes (cs.flatMap quoteChar) places := by
  induction cs with
  | nil => exact ⟨[], passes_nil⟩
  | cons c cs ih =>
    obtain ⟨x, hx⟩ := passes_quoteChar c
    obtain ⟨y, hy⟩ := ih
    rw [List.flatMap_cons]
    exact ⟨_, hx.append hy⟩

/-! ### Quoted messages -/

theorem toList_quote (value : String) :
    (quote value).toList = '\x22' :: (value.toList.flatMap quoteChar ++ ['\x22']) := by
  rw [quote, String.toList_ofList]

/-- A scanner that reads a quoted message stops at its last character, and each backslash that it
meets on the way starts an escape. -/
theorem exists_scan_quote (value : String) (rest : List Char) :
    ∃ t, scan ((quote value).toList ++ rest) = some t ∧
      t.closing + 1 = (quote value).toList.length ∧
      ∀ i ∈ t.backslashes, StartsEscape ((quote value).toList.drop i) := by
  obtain ⟨places, hpasses⟩ := passes_flatMap_quoteChar value.toList
  rw [toList_quote]
  generalize value.toList.flatMap quoteChar = body at hpasses
  have hstop : scanFrom (1 + body.length) ('\x22' :: rest) = some ⟨[], 1 + body.length⟩ := rfl
  refine ⟨⟨places.map (1 + ·), 1 + body.length⟩, ?_, ?_, ?_⟩
  · show scanFrom 1 ((body ++ ['\x22']) ++ rest) = _
    rw [List.append_assoc, hpasses.scans, List.singleton_append, hstop, Option.map_some,
      Token.after, List.append_nil]
  · simp only [List.length_cons, List.length_append, List.length_nil]
    omega
  · intro i hi
    obtain ⟨k, hk, rfl⟩ := List.mem_map.1 hi
    rw [Nat.add_comm, List.drop_succ_cons]
    exact (hpasses.escapes k hk).mono (List.IsPrefix.drop (List.prefix_append body _) k)

theorem isControl_eq_false_iff {c : Char} :
    isControl c = false ↔ 0x20 ≤ c.toNat ∧ c.toNat ≠ 0x7f := by
  simp [isControl]

end MessageCatalog.Literal

namespace MessageCatalog

open Literal

/-- A quoted message is one token on one line: it has no control characters, it starts with a
double quote, and a scanner stops at its last character, whatever stands behind it.  Each backslash
that the scanner meets starts an escape of one letter or of three octal digits, which is part of
the quoted message. -/
theorem quoted_message_is_one_token (value rest : String) :
    (∀ c ∈ (quote value).toList, 0x20 ≤ c.toNat ∧ c.toNat ≠ 0x7f) ∧
    (quote value).toList.head? = some '\x22' ∧
    ∃ t, scan (quote value ++ rest).toList = some t ∧
      t.closing + 1 = (quote value).toList.length ∧
      ∀ i ∈ t.backslashes, StartsEscape ((quote value).toList.drop i) := by
  refine ⟨fun c hc => isControl_eq_false_iff.1 (isControl_of_mem_quote hc), ?_, ?_⟩
  · rw [toList_quote, List.head?_cons]
  · rw [String.toList_append]
    exact exists_scan_quote value rest.toList

/-- A backslash before a quote, a control character before a digit, and a backslash at the end:
the scanner stays in phase and does not run into the quote behind the token. -/
theorem quoted_backslashes_stay_in_phase :
    quote "\\\"\x017\\" = "\"\\\\\\\"\\0017\\\\\"" ∧
    scan (quote "\\\"\x017\\" ++ "\\\"").toList = some ⟨[1, 3, 5, 10], 12⟩ ∧
    (0x20 ≤ '7'.toNat ∧ '7'.toNat ≠ 0x7f) ∧
    StartsEscape ['\\', '0', '0', '1', '7', '\\', '\\', '\x22'] := by
  have hquote : quote "\\\"\x017\\" = "\"\\\\\\\"\\0017\\\\\"" := by decide
  obtain ⟨hplain, _, t, hscan, _, hescapes⟩ := quoted_message_is_one_token "\\\"\x017\\" "\\\""
  have ht : scan (quote "\\\"\x017\\" ++ "\\\"").toList = some ⟨[1, 3, 5, 10], 12⟩ := by decide
  obtain rfl : t = ⟨[1, 3, 5, 10], 12⟩ := Option.some.inj (hscan.symm.trans ht)
  exact ⟨hquote, ht, hplain '7' (by decide), hescapes 5 (by decide)⟩

end MessageCatalog
