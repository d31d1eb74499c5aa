/-! # Numerals

A numeral is an optional plus sign followed by one or more digits of its base.  The same rule
reads the line and column of a position (base ten) and the digits of an escape sequence
(base sixteen).
-/

namespace MessageCatalog.Text

/-- The value of a digit: `0` to `9`, then letters of either case from ten on. -/
def digitValue? (c : Char) : Option Nat :=
  let n := c.toNat
  if 0x30 ≤ n && n ≤ 0x39 then some (n - 0x30)
  else if 0x61 ≤ n && n ≤ 0x7a then some (n - 0x61 + 10)
  else if 0x41 ≤ n && n ≤ 0x5a then some (n - 0x41 + 10)
  else none

/-- The value of a digit of the given base. -/
def digit? (base : Nat) (c : Char) : Option Nat :=
  (digitValue? c).filter (· < base)

/-- The value of digits that continue a number whose value so far is `acc`. -/
def digits? (base : Nat) : Nat → List Char → Option Nat
  | acc, [] => some acc
  | acc, c :: cs => (digit? base c).bind fun d => digits? base (acc * base + d) cs

/-- The value of a non-empty run of digits. -/
def unsigned? (base : Nat) : List Char → Option Nat
  | [] => none
  | cs => digits? base 0 cs

/-- The value of a numeral: one leading plus sign is allowed. -/
def numeral? (base : Nat) : List Char → Option Nat
  | '+' :: cs => unsigned? base cs
  | cs => unsigned? base cs

/-! ### Small laws -/

theorem digitValue?_digitChar : ∀ d < 16, digitValue? (Nat.digitChar d) = some d := by
  decide

theorem digitValue?_toUpper_digitChar :
    ∀ d < 16, digitValue? (Nat.digitChar d).toUpper = some d := by
  decide

/-- Only the digit itself, in either case, has its value. -/
theorem digitChar_eq_of_digitValue? {c : Char} {d : Nat} (h : digitValue? c = some d)
    (hd : d < 16) : Nat.digitChar d = c ∨ (Nat.digitChar d).toUpper = c := by
  have hdecimal : ∀ d < 10, Nat.digitChar d = Char.ofNat (d + 0x30) := by decide
  have hlower : ∀ d < 16, 10 ≤ d → Nat.digitChar d = Char.ofNat (d - 10 + 0x61) := by decide
  have hupper : ∀ d < 16, 10 ≤ d → (Nat.digitChar d).toUpper = Char.ofNat (d - 10 + 0x41) := by
    decide
  have hc : ∀ n, n = c.toNat → Char.ofNat n = c := by
    rintro n rfl
    exact Char.ofNat_toNat c
  simp only [digitValue?, Bool.and_eq_true, decide_eq_true_eq] at h
  split at h
  · cases h
    rw [hdecimal _ (by omega)]
    exact .inl (hc _ (by omega))
  split at h
  · cases h
    rw [hlower _ hd (by omega)]
    exact .inl (hc _ (by omega))
  split at h
  · cases h
    rw [hupper _ hd (by omega)]
    exact .inr (hc _ (by omega))
  · cases h

theorem digit?_eq_some_iff {base d : Nat} {c : Char} :
    digit? base c = some d ↔ digitValue? c = some d ∧ d < base := by
  rw [digit?, Option.filter_eq_some_iff, decide_eq_true_eq]

theorem digit?_digitChar {base d : Nat} (hbase : base ≤ 16) (h : d < base) :
    digit? base (Nat.digitChar d) = some d := by
  rw [digit?, digitValue?_digitChar d (by omega)]
  simp [h]

theorem digits?_append (base : Nat) : ∀ (acc : Nat) (a b : List Char),
    digits? base acc (a ++ b) = (digits? base acc a).bind fun n => digits? base n b
  | _, [], _ => rfl
  | acc, c :: a, b => by
      rw [List.cons_append, digits?, digits?, Option.bind_assoc]
      congr 1
      funext d
      exact digits?_append base (acc * base + d) a b

/-- Reading the digits of a number gives the number. -/
theorem digits?_toDigits {base : Nat} (hone : 1 < base) (hbase : base ≤ 16) (n : Nat) :
    digits? base 0 (Nat.toDigits base n) = some n := by
  induction n using Nat.strongRecOn with
  | ind n ih =>
    by_cases h : n < base
    · rw [Nat.toDigits_of_lt_base h, digits?, digit?_digitChar hbase h]
      simp [digits?]
    · have hdiv : n / base < n := Nat.div_lt_self (by omega) hone
      have hmod : n % base < base := Nat.mod_lt _ (by omega)
      rw [Nat.toDigits_of_base_le hone (by omega), digits?_append, ih _ hdiv, Option.bind_some,
        digits?, digit?_digitChar hbase hmod, Option.bind_some, digits?, Nat.mul_comm,
        Nat.div_add_mod]

theorem unsigned?_toDigits {base : Nat} (hone : 1 < base) (hbase : base ≤ 16) (n : Nat) :
    unsigned? base (Nat.toDigits base n) = some n := by
  rw [unsigned?]
  · exact digits?_toDigits hone hbase n
  · exact Nat.toDigits_ne_nil

end MessageCatalog.Text
