import Mathlib.Data.Nat.Digits.Defs
import MessageCatalog.Proofs.Lines
import MessageCatalog.Proofs.Template

/-! # The grammar of positions

A position is written as a file, a line and a column with colons between them.  `Divides` says how
a text is cut at its colons, and `Writes` which texts stand for a line or a column: decimal digits
with at most one plus sign in front, for a number below `2 ^ 64`, with any number of zeros in front.
The value of digits is that of `Nat.ofDigits`, which knows nothing of the reader.

The reader accepts a text exactly if it is cut into three parts and the last two are such numbers
(`parse_eq_ok_iff`).  It refuses the others for one reason each: the number of colons
(`parse_eq_form_iff`), else the first of the two parts that is no number (`parse_eq_number_iff`). -/

namespace MessageCatalog

/-! ### Decimal numerals -/

namespace Text

/-- The number that decimal digits stand for, the highest digit first. -/
def decimalValue (ds : List Char) : Nat :=
  Nat.ofDigits 10 (ds.map fun c => c.toNat - '0'.toNat).reverse

theorem decimalValue_cons (c : Char) (ds : List Char) :
    decimalValue (c :: ds) = (c.toNat - '0'.toNat) * 10 ^ ds.length + decimalValue ds := by
  rw [decimalValue, List.map_cons, Nat.ofDigits_reverse_cons, List.length_map, Nat.add_comm,
    Nat.mul_comm]
  rfl

theorem digit?_ten_eq_some_iff {c : Char} {d : Nat} :
    digit? 10 c = some d ↔ c.isDigit = true ∧ c.toNat - '0'.toNat = d := by
  have hdigit : c.isDigit = true ↔ 0x30 ≤ c.toNat ∧ c.toNat ≤ 0x39 := by
    rw [Char.isDigit, Bool.and_eq_true, decide_eq_true_eq, decide_eq_true_eq]
    rfl
  have hzero : '0'.toNat = 0x30 := rfl
  rw [digit?_eq_some_iff, hdigit, hzero]
  simp only [digitValue?, Bool.and_eq_true, decide_eq_true_eq]
  constructor
  · rintro ⟨h, hd⟩
    split at h
    · rename_i hc
      cases h
      exact ⟨hc, rfl⟩
    -- the letters have values from ten on
    split at h
    · cases h
      omega
    split at h
    · cases h
      omega
    · cases h
  · rintro ⟨h, rfl⟩
    rw [if_pos h]
    exact ⟨rfl, by omega⟩

theorem digits?_ten_eq_some_iff : ∀ {acc n : Nat} {ds : List Char},
    digits? 10 acc ds = some n ↔
      (∀ c ∈ ds, c.isDigit = true) ∧ acc * 10 ^ ds.length + decimalValue ds = n
  | acc, n, [] => by simp [digits?, decimalValue]
  | acc, n, c :: ds => by
      have hvalue : (acc * 10 + (c.toNat - '0'.toNat)) * 10 ^ ds.length + decimalValue ds =
          acc * 10 ^ (c :: ds).length + decimalValue (c :: ds) := by
        rw [decimalValue_cons, List.length_cons, Nat.pow_succ]
        ring
      rw [digits?, Option.bind_eq_some_iff, List.forall_mem_cons, ← hvalue]
      constructor
      · rintro ⟨d, hd, h⟩
        obtain ⟨hc, rfl⟩ := digit?_ten_eq_some_iff.1 hd
        obtain ⟨hds, hn⟩ := digits?_ten_eq_some_iff.1 h
        exact ⟨⟨hc, hds⟩, hn⟩
      · rintro ⟨⟨hc, hds⟩, hn⟩
        exact ⟨_, digit?_ten_eq_some_iff.2 ⟨hc, rfl⟩, digits?_ten_eq_some_iff.2 ⟨hds, hn⟩⟩

theorem unsigned?_ten_eq_some_iff {n : Nat} {ds : List Char} :
    unsigned? 10 ds = some n ↔
      ds ≠ [] ∧ (∀ c ∈ ds, c.isDigit = true) ∧ decimalValue ds = n := by
  cases ds with
  | nil => simp [unsigned?]
  | cons c ds =>
    rw [unsigned?, digits?_ten_eq_some_iff, Nat.zero_mul, Nat.zero_add]
    · simp
    · simp

/-- A decimal numeral is digits, with or without a plus sign. -/
theorem numeral?_ten_eq_some_iff {n : Nat} {cs : List Char} :
    numeral? 10 cs = some n ↔ ∃ ds, (cs = ds ∨ cs = '+' :: ds) ∧ ds ≠ [] ∧
      (∀ c ∈ ds, c.isDigit = true) ∧ decimalValue ds = n := by
  by_cases hplus : ∃ ds, cs = '+' :: ds
  · obtain ⟨ds, rfl⟩ := hplus
    rw [numeral?, unsigned?_ten_eq_some_iff]
    constructor
    · intro h
      exact ⟨ds, .inr rfl, h⟩
    · rintro ⟨ds', rfl | h, hne, hall, hn⟩
      · -- a plus sign is no digit
        exact absurd (hall '+' List.mem_cons_self) (by decide)
      · cases h
        exact ⟨hne, hall, hn⟩
  · have hnumeral : numeral? 10 cs = unsigned? 10 cs := by
      unfold numeral?
      split
      · exact absurd ⟨_, rfl⟩ hplus
      · rfl
    rw [hnumeral, unsigned?_ten_eq_some_iff]
    constructor
    · intro h
      exact ⟨cs, .inl rfl, h⟩
    · rintro ⟨ds, rfl | h, hds⟩
      · exact hds
      · exact absurd ⟨ds, h⟩ hplus

end Text

namespace Position

/-! ### Lines and columns -/

/-- The text stands for the number `n`: digits, with or without a plus sign, of a value that takes
64 bits. -/
def Writes (text : String) (n : Nat) : Prop :=
  ∃ ds : List Char, (text.toList = ds ∨ text.toList = '+' :: ds) ∧ ds ≠ [] ∧
    (∀ c ∈ ds, c.isDigit = true) ∧ Text.decimalValue ds = n ∧ n ≤ 2 ^ 64 - 1

theorem writes_iff {text : String} {n : Nat} :
    Writes text n ↔ Text.numeral? 10 text.toList = some n ∧ n < limit := by
  have hlimit : n ≤ 2 ^ 64 - 1 ↔ n < limit := by
    have : limit = 2 ^ 64 := rfl
    omega
  rw [Text.numeral?_ten_eq_some_iff, ← hlimit]
  constructor
  · rintro ⟨ds, htext, hne, hall, hn, hle⟩
    exact ⟨⟨ds, htext, hne, hall, hn⟩, hle⟩
  · rintro ⟨⟨ds, htext, hne, hall, hn⟩, hle⟩
    exact ⟨ds, htext, hne, hall, hn, hle⟩

theorem parseNumber_eq_ok_iff {text : String} {n : Nat} :
    parseNumber text.toList = .ok n ↔ Writes text n := by
  rw [writes_iff, parseNumber]
  cases Text.numeral? 10 text.toList with
  | none => simp
  | some m =>
    by_cases hm : m < limit
    · simp only [if_pos hm, Except.ok.injEq, Option.some.injEq]
      exact ⟨fun h => ⟨h, h ▸ hm⟩, And.left⟩
    · simp only [if_neg hm, Option.some.injEq, reduceCtorEq, false_iff]
      rintro ⟨rfl, h⟩
      exact hm h

/-- What is refused as a number is named in the refusal. -/
theorem parseNumber_of_not_writes {text : String} (h : ¬ ∃ n, Writes text n) :
    parseNumber text.toList = .error (.number text) := by
  cases hparse : parseNumber text.toList with
  | ok n => exact absurd ⟨n, parseNumber_eq_ok_iff.1 hparse⟩ h
  | error e =>
    rw [parseNumber, String.ofList_toList] at hparse
    split at hparse
    · split at hparse <;> cases hparse
      rfl
    · cases hparse
      rfl

theorem writes_repr {n : Nat} (h : n < 2 ^ 64) : Writes n.repr n := by
  rw [writes_iff]
  refine ⟨?_, h⟩
  have hunsigned := Template.unsigned?_repr n
  unfold Text.numeral?
  split
  · rename_i ds hds
    -- the printed number has no sign
    have hplus := Template.not_mem_repr (c := '+') rfl n
    rw [hds] at hplus
    exact absurd List.mem_cons_self hplus
  · exact hunsigned

/-! ### Cutting a text at its colons -/

/-- The text is the three parts with colons between them, and there are no other colons. -/
structure Divides (text file line column : String) : Prop where
  eq : text = file ++ ":" ++ line ++ ":" ++ column
  file : ':' ∉ file.toList
  line : ':' ∉ line.toList
  column : ':' ∉ column.toList

theorem divides_iff {text file line column : String} : Divides text file line column ↔
    text.toList.splitOn ':' = [file.toList, line.toList, column.toList] := by
  constructor
  · rintro ⟨rfl, hfile, hline, hcolumn⟩
    have htext : (file ++ ":" ++ line ++ ":" ++ column).toList =
        file.toList ++ ':' :: (line.toList ++ ':' :: column.toList) := by
      simp
    rw [htext, List.splitOn_append_cons_self_of_not_mem hfile,
      List.splitOn_append_cons_self_of_not_mem hline, List.splitOn_eq_singleton hcolumn]
  · intro h
    have hparts : ∀ part ∈ [file.toList, line.toList, column.toList], ':' ∉ part := by
      rw [← h]
      exact fun _ => not_mem_of_mem_splitOn
    simp only [List.forall_mem_cons] at hparts
    obtain ⟨hfile, hline, hcolumn, _⟩ := hparts
    refine ⟨?_, hfile, hline, hcolumn⟩
    have hjoin : [':'].intercalate (text.toList.splitOn ':') = text.toList :=
      List.intercalate_splitOn ':'
    rw [h] at hjoin
    rw [← String.toList_inj, ← hjoin]
    simp [List.intercalate]

theorem exists_divides_iff {text : String} :
    (∃ file line column, Divides text file line column) ↔ text.toList.count ':' = 2 := by
  have hlength := Text.length_splitOn ':' text.toList
  constructor
  · rintro ⟨file, line, column, h⟩
    rw [divides_iff.1 h] at hlength
    simpa using hlength.symm
  · intro h
    rw [h, List.length_eq_three] at hlength
    obtain ⟨file, line, column, hparts⟩ := hlength
    refine ⟨String.ofList file, String.ofList line, String.ofList column, divides_iff.2 ?_⟩
    simpa using hparts

/-! ### Reading a position -/

theorem parse_of_divides {text file line column : String} (h : Divides text file line column) :
    parse text = do
      let l ← parseNumber line.toList
      let c ← parseNumber column.toList
      return ⟨file, l, c⟩ := by
  unfold parse
  rw [divides_iff.1 h]
  simp only [String.ofList_toList]

theorem parse_of_not_divides {text : String}
    (h : ¬ ∃ file line column, Divides text file line column) :
    parse text = .error (.form text) := by
  unfold parse
  split
  · rename_i file line column hparts
    refine absurd ⟨String.ofList file, String.ofList line, String.ofList column, ?_⟩ h
    rw [divides_iff, hparts]
    simp
  · rfl

/-- A text is refused as a whole, or it is read part by part up to the first part that is no
number. -/
theorem parse_cases (text : String) :
    (¬ ∃ file line column, Divides text file line column) ∧ parse text = .error (.form text) ∨
    ∃ file line column, Divides text file line column ∧
      ((∃ l c, Writes line l ∧ Writes column c ∧ parse text = .ok ⟨file, l, c⟩) ∨
        (¬ ∃ l, Writes line l) ∧ parse text = .error (.number line) ∨
        (∃ l, Writes line l) ∧ (¬ ∃ c, Writes column c) ∧ parse text = .error (.number column)) := by
  by_cases hdivides : ∃ file line column, Divides text file line column
  · obtain ⟨file, line, column, hd⟩ := hdivides
    refine .inr ⟨file, line, column, hd, ?_⟩
    rw [parse_of_divides hd]
    by_cases hline : ∃ l, Writes line l
    · obtain ⟨l, hl⟩ := hline
      rw [parseNumber_eq_ok_iff.2 hl]
      by_cases hcolumn : ∃ c, Writes column c
      · obtain ⟨c, hc⟩ := hcolumn
        rw [parseNumber_eq_ok_iff.2 hc]
        exact .inl ⟨l, c, hl, hc, rfl⟩
      · rw [parseNumber_of_not_writes hcolumn]
        exact .inr (.inr ⟨⟨l, hl⟩, hcolumn, rfl⟩)
    · rw [parseNumber_of_not_writes hline]
      exact .inr (.inl ⟨hline, rfl⟩)
  · exact .inl ⟨hdivides, parse_of_not_divides hdivides⟩

theorem parse_eq_ok_iff {text : String} {p : Position} : parse text = .ok p ↔
    ∃ line column, Divides text p.file line column ∧
      Writes line p.location.line ∧ Writes column p.location.column := by
  constructor
  · intro h
    obtain ⟨_, hparse⟩ | ⟨file, line, column, hd,
      ⟨l, c, hl, hc, hparse⟩ | ⟨_, hparse⟩ | ⟨_, _, hparse⟩⟩ := parse_cases text
    all_goals
      rw [hparse] at h
      cases h
    exact ⟨line, column, hd, hl, hc⟩
  · rintro ⟨line, column, hd, hl, hc⟩
    rw [parse_of_divides hd, parseNumber_eq_ok_iff.2 hl, parseNumber_eq_ok_iff.2 hc]
    rfl

theorem parse_eq_form_iff {text reason : String} : parse text = .error (.form reason) ↔
    reason = text ∧ text.toList.count ':' ≠ 2 := by
  rw [ne_eq, ← exists_divides_iff]
  constructor
  · intro h
    obtain ⟨hdivides, hparse⟩ | ⟨_, _, _, _,
      ⟨_, _, _, _, hparse⟩ | ⟨_, hparse⟩ | ⟨_, _, hparse⟩⟩ := parse_cases text
    all_goals
      rw [hparse] at h
      cases h
    exact ⟨rfl, hdivides⟩
  · rintro ⟨rfl, hdivides⟩
    exact parse_of_not_divides hdivides

theorem parse_eq_number_iff {text part : String} : parse text = .error (.number part) ↔
    ∃ file line column, Divides text file line column ∧
      ((¬ ∃ l, Writes line l) ∧ part = line ∨
        (∃ l, Writes line l) ∧ (¬ ∃ c, Writes column c) ∧ part = column) := by
  constructor
  · intro h
    obtain ⟨_, hparse⟩ | ⟨file, _, _, hd,
      ⟨_, _, _, _, hparse⟩ | ⟨hl, hparse⟩ | ⟨hl, hc, hparse⟩⟩ := parse_cases text
    all_goals
      rw [hparse] at h
      cases h
    · exact ⟨file, _, _, hd, .inl ⟨hl, rfl⟩⟩
    · exact ⟨file, _, _, hd, .inr ⟨hl, hc, rfl⟩⟩
  · rintro ⟨file, line, column, hd, ⟨hl, rfl⟩ | ⟨⟨l, hl⟩, hc, rfl⟩⟩
    · rw [parse_of_divides hd, parseNumber_of_not_writes hl]
      rfl
    · rw [parse_of_divides hd, parseNumber_eq_ok_iff.2 hl, parseNumber_of_not_writes hc]
      rfl

theorem divides_render {p : Position} (h : ':' ∉ p.file.toList) :
    Divides p.render p.file p.location.line.repr p.location.column.repr where
  eq := by simp only [render, Location.render, String.append_assoc]
  file := h
  line := Template.not_mem_repr rfl _
  column := Template.not_mem_repr rfl _

/-- A text is read as a position exactly if it is a file, a line and a column with colons between
them.  Any other text is refused as a whole if it does not have two colons, and else for its line
or, if that is a number, for its column.  What is read from a written position is that position. -/
theorem position_grammar_is_exact :
    (∀ text file line column, parse text = .ok ⟨file, line, column⟩ ↔
      ∃ a b, Divides text file a b ∧ Writes a line ∧ Writes b column) ∧
    (∀ text reason, parse text = .error (.form reason) ↔
      reason = text ∧ text.toList.count ':' ≠ 2) ∧
    (∀ text part, parse text = .error (.number part) ↔
      ∃ file a b, Divides text file a b ∧
        ((¬ ∃ line, Writes a line) ∧ part = a ∨
          (∃ line, Writes a line) ∧ (¬ ∃ column, Writes b column) ∧ part = b)) ∧
    (∀ p : Position, ':' ∉ p.file.toList → p.location.line < 2 ^ 64 → p.location.column < 2 ^ 64 →
      parse p.render = .ok p) := by
  refine ⟨fun _ _ _ _ => parse_eq_ok_iff, fun _ _ => parse_eq_form_iff,
    fun _ _ => parse_eq_number_iff, fun p hfile hline hcolumn => parse_eq_ok_iff.2 ?_⟩
  exact ⟨_, _, divides_render hfile, writes_repr hline, writes_repr hcolumn⟩

/-- The last line that there can be, in a file without a name, is read back; it may have zeros and
a plus sign in front, but the next number is refused. -/
theorem last_line_is_read_back :
    parse (render ⟨"", 18446744073709551615, 0⟩) = .ok ⟨"", 18446744073709551615, 0⟩ ∧
    parse ":+0018446744073709551615:0" = .ok ⟨"", 18446744073709551615, 0⟩ ∧
    parse ":18446744073709551616:+" = .error (.number "18446744073709551616") := by
  obtain ⟨hok, _, hnumber, hrender⟩ := position_grammar_is_exact
  refine ⟨hrender _ (by decide) (by decide) (by decide), ?_, ?_⟩
  · refine (hok _ _ _ _).2 ⟨"+0018446744073709551615", "0", ⟨rfl, by decide, by decide, by decide⟩,
      writes_iff.2 ⟨by decide, by decide⟩, writes_iff.2 ⟨by decide, by decide⟩⟩
  · refine (hnumber _ _).2 ⟨"", "18446744073709551616", "+",
      ⟨rfl, by decide, by decide, by decide⟩, .inl ⟨?_, rfl⟩⟩
    rintro ⟨n, h⟩
    obtain ⟨hvalue, hlt⟩ := writes_iff.1 h
    obtain rfl : 18446744073709551616 = n := Option.some.inj hvalue
    exact absurd hlt (by decide)

end Position

end MessageCatalog
