import MessageCatalog.CallSite
import MessageCatalog.Proofs.Parsing

/-! # Scanners do not look ahead

What a scanner reads stands at the front of its text, and it is read whatever text follows.
Numbers are the one exception: a number goes on as long as there are digits, so it is read again
only if the text ends behind it or goes on with the same character.  `Steady p s` says this of a
scanner `s`, where `p` tells whether there is no exception; it is kept by the ways scanners are put
together, so it goes through the loops of arrays and objects up to `value`.

An array or an object ends with its bracket (`Delimited`), so a document of call sites is read alone
as it is read in front of any other text, and texts of documents can be put behind each other
(`CallSite.parse_append`, `CallSite.parse_join`). -/

namespace MessageCatalog.Json

variable {α β κ σ : Type} {p q : Prop}

/-! ### White space -/

theorem exists_space_of_token {cs body : List Char} {c : Char} (h : skipSpace cs = c :: body) :
    ∃ space, (∀ x ∈ space, isSpace x = true) ∧ isSpace c = false ∧ cs = space ++ c :: body := by
  rw [skipSpace] at h
  refine ⟨cs.takeWhile isSpace, List.all_eq_true.1 List.all_takeWhile, ?_, ?_⟩
  · have hhead := List.head?_dropWhile_not isSpace cs
    rw [h] at hhead
    simpa using hhead
  · rw [← h, List.takeWhile_append_dropWhile]

theorem skipSpace_of_token {space : List Char} {c : Char} (hspace : ∀ x ∈ space, isSpace x = true)
    (hc : isSpace c = false) (t : List Char) : skipSpace (space ++ c :: t) = c :: t := by
  rw [skipSpace, List.dropWhile_append_of_pos hspace, List.dropWhile_cons_of_neg (by simp [hc])]

theorem skipSpace_append_of_nil {cs : List Char} (h : skipSpace cs = []) (t : List Char) :
    skipSpace (cs ++ t) = skipSpace t := by
  rw [skipSpace] at h
  rw [skipSpace, List.dropWhile_append, h]
  rfl

/-! ### Steady scanners -/

/-- What was read in front of `rest` is read in front of `t` as well: in any case if `p` holds, and
else if the text ends there or goes on with the same character. -/
def Ends (p : Prop) (rest t : List Char) : Prop := p ∨ t = [] ∨ t.head? = rest.head?

theorem Ends.append {rest t : List Char} (h : Ends p rest t) (d : List Char) :
    Ends p (d ++ rest) (d ++ t) := by
  cases d with
  | nil => exact h
  | cons c d => exact .inr (.inr rfl)

/-- What the scanner reads stands at the front of the text, and is read wherever it ends. -/
structure Steady (p : Prop) (s : Scan α) : Prop where
  reads : ∀ {cs x rest}, s cs = .ok (x, rest) →
    ∃ d, cs = d ++ rest ∧ ∀ t, Ends p rest t → s (d ++ t) = .ok (x, t)

/-- What the scanner reads is not empty and tells its own end. -/
structure Delimited (s : Scan α) : Prop where
  reads : ∀ {cs x rest}, s cs = .ok (x, rest) →
    ∃ d, d ≠ [] ∧ cs = d ++ rest ∧ ∀ t, s (d ++ t) = .ok (x, t)

namespace Delimited

variable {s : Scan α}

theorem steady (h : Delimited s) : Steady p s where
  reads hs := by
    obtain ⟨d, _, hcs, hd⟩ := h.reads hs
    exact ⟨d, hcs, fun t _ => hd t⟩

theorem steady_cons (h : Delimited s) (c : Char) : Steady p fun cs => s (c :: cs) where
  reads {cs x rest} hs := by
    obtain ⟨d, hne, hcs, hd⟩ := h.reads hs
    obtain ⟨a, d, rfl⟩ := List.exists_cons_of_ne_nil hne
    cases hcs
    exact ⟨d, rfl, fun t _ => hd t⟩

theorem append (h : Delimited s) {cs rest : List Char} {x : α} (hs : s cs = .ok (x, rest))
    (t : List Char) : s (cs ++ t) = .ok (x, rest ++ t) := by
  obtain ⟨d, _, rfl, hd⟩ := h.reads hs
  rw [List.append_assoc]
  exact hd (rest ++ t)

theorem length_lt (h : Delimited s) {cs rest : List Char} {x : α} (hs : s cs = .ok (x, rest)) :
    rest.length < cs.length := by
  obtain ⟨d, hne, rfl, _⟩ := h.reads hs
  have := List.length_pos_iff.2 hne
  rw [List.length_append]
  omega

end Delimited

namespace Steady

theorem mono {s : Scan α} (h : Steady p s) (hqp : q → p) : Steady q s where
  reads hs := by
    obtain ⟨d, hcs, hd⟩ := h.reads hs
    exact ⟨d, hcs, fun t ht => hd t (ht.imp_left hqp)⟩

theorem error (f : Fault) : Steady p (fun _ => .error f : Scan α) where
  reads h := by cases h

theorem pure (x : α) : Steady p (fun cs => .ok (x, cs)) where
  reads h := by
    cases h
    exact ⟨[], rfl, fun t _ => rfl⟩

theorem bind {s : Scan α} {f : α → Scan β} (hs : Steady p s) (hf : ∀ x, Steady p (f x)) :
    Steady p (fun cs => do let (x, rest) ← s cs; f x rest) where
  reads {cs y rest} h := by
    obtain ⟨⟨x, middle⟩, hx, hy⟩ := bind_eq_ok h
    obtain ⟨d, rfl, hd⟩ := hs.reads hx
    obtain ⟨e, rfl, he⟩ := (hf x).reads hy
    refine ⟨d ++ e, (List.append_assoc d e rest).symm, fun t ht => ?_⟩
    -- the first part ends where the second starts, which is the same text
    show (s (d ++ e ++ t) >>= fun r => f r.1 r.2) = .ok (y, t)
    rw [List.append_assoc, hd (e ++ t) (ht.append e)]
    exact he t ht

theorem map {s : Scan α} (hs : Steady p s) (g : α → β) :
    Steady p (fun cs => (s cs).map fun (x, rest) => (g x, rest)) := by
  have h : Steady p (fun cs => do let (x, rest) ← s cs; .ok (g x, rest)) :=
    hs.bind fun x => .pure (g x)
  have e : (fun cs => (s cs).map fun (x, rest) => (g x, rest)) =
      (fun cs => do let (x, rest) ← s cs; .ok (g x, rest)) := by
    funext cs
    cases s cs <;> rfl
  rw [e]
  exact h

theorem ite {b : Prop} [Decidable b] {s s' : Scan α} (hs : b → Steady p s)
    (hs' : ¬ b → Steady p s') : Steady p (fun cs => if b then s cs else s' cs) := by
  by_cases hb : b
  · simp only [if_pos hb]
    exact hs hb
  · simp only [if_neg hb]
    exact hs' hb

/-- A scanner that fails on the empty text is steady if it is so behind every first character. -/
theorem cons {s : Scan α} {f : Fault} (hnil : s [] = .error f)
    (hs : ∀ c, Steady p fun cs => s (c :: cs)) : Steady p s where
  reads {cs x rest} h := by
    cases cs with
    | nil => rw [hnil] at h; cases h
    | cons c cs =>
      obtain ⟨d, rfl, hd⟩ := (hs c).reads h
      exact ⟨c :: d, rfl, hd⟩

/-- A scanner that goes to the next token first is steady if it is so behind every first
character of a token. -/
theorem token {s : Scan α} {f : Char → Scan α} {e : Fault}
    (hnil : ∀ {cs}, skipSpace cs = [] → s cs = .error e)
    (hcons : ∀ {cs c rest}, skipSpace cs = c :: rest → s cs = f c rest)
    (hf : ∀ c, Steady p (f c)) : Steady p s where
  reads {cs x rest} h := by
    cases hc : skipSpace cs with
    | nil => rw [hnil hc] at h; cases h
    | cons c body =>
      rw [hcons hc] at h
      obtain ⟨space, hspace, hfirst, rfl⟩ := exists_space_of_token hc
      obtain ⟨d, rfl, hd⟩ := (hf c).reads h
      refine ⟨space ++ c :: d, by simp, fun t ht => ?_⟩
      rw [List.append_assoc, List.cons_append, hcons (skipSpace_of_token hspace hfirst (d ++ t))]
      exact hd t ht

/-- A scanner that looks at one character, and either goes on behind it by `f` or leaves it, is
steady. -/
theorem peek {s : Scan α} {x : α} (f : Char → Option (Scan α)) (hnil : s [] = .ok (x, []))
    (hcons : ∀ c cs, s (c :: cs) = (f c).elim (.ok (x, c :: cs)) fun g => g cs)
    (hf : ∀ c g, f c = some g → Steady False g) : Steady False s where
  reads {cs y rest} h := by
    cases cs with
    | nil =>
      rw [hnil] at h
      cases h
      refine ⟨[], rfl, ?_⟩
      rintro t (⟨⟨⟩⟩ | rfl | ht)
      · exact hnil
      · cases List.head?_eq_none_iff.1 ht
        exact hnil
    | cons c cs =>
      rw [hcons] at h
      cases e : f c with
      | none =>
        rw [e] at h
        cases h
        refine ⟨[], rfl, ?_⟩
        rintro t (⟨⟨⟩⟩ | rfl | ht)
        · exact hnil
        · obtain ⟨t, rfl⟩ := List.head?_eq_some_iff.1 ht
          rw [List.nil_append, hcons, e]
          rfl
      | some g =>
        rw [e] at h
        obtain ⟨d, rfl, hd⟩ := (hf c g e).reads h
        refine ⟨c :: d, rfl, fun t ht => ?_⟩
        rw [List.cons_append, hcons, e]
        exact hd t ht

/-- What was read up to the next token is read up to it, whatever follows the token. -/
theorem reads_to_token {s : Scan α} (h : Steady False s) {cs rest body : List Char} {x : α}
    {c : Char} (hs : s cs = .ok (x, rest)) (hc : skipSpace rest = c :: body) :
    ∃ d, cs = d ++ c :: body ∧
      ∀ t, ∃ rest', s (d ++ c :: t) = .ok (x, rest') ∧ skipSpace rest' = c :: t := by
  obtain ⟨space, hspace, hfirst, rfl⟩ := exists_space_of_token hc
  obtain ⟨d, rfl, hd⟩ := h.reads hs
  refine ⟨d ++ space, by simp, fun t => ⟨space ++ c :: t, ?_, skipSpace_of_token hspace hfirst t⟩⟩
  have hends : Ends False (c :: body) (c :: t) := .inr (.inr rfl)
  rw [List.append_assoc]
  exact hd _ (hends.append space)

end Steady

theorem steady_exactly : ∀ ws : List Char, Steady p (exactly ws)
  | [] => .pure ()
  | _ :: ws => .cons rfl fun _ => .ite (fun _ => steady_exactly ws) fun _ => .error _

theorem steady_colon : Steady p colon := by
  refine .token (f := fun c rest => if c = ':' then .ok ((), rest) else .error .malformed)
    (fun h => by rw [colon, h]) (fun {cs c rest} h => ?_)
    fun c => .ite (fun _ => .pure ()) fun _ => .error _
  rw [colon, h]
  split <;> simp_all

/-! ### Quoted strings -/

theorem hexQuad_eq_ok_iff {cs rest : List Char} {n : Nat} : hexQuad cs = .ok (n, rest) ↔
    ∃ a b c d, cs = a :: b :: c :: d :: rest ∧ Text.digits? 16 0 [a, b, c, d] = some n := by
  unfold hexQuad
  constructor
  · intro h
    split at h
    · cases h
    · split at h
      · rename_i a b c d _ _
        cases e : Text.digits? 16 0 [a, b, c, d] with
        | none => rw [e] at h; cases h
        | some m => rw [e] at h; cases h; exact ⟨a, b, c, d, rfl, e⟩
      · cases h
  · rintro ⟨a, b, c, d, rfl, h⟩
    have hlong : ¬ Text.byteLength ((a :: b :: c :: d :: rest).take 4) < 4 := by
      have := a.utf8Size_pos
      have := b.utf8Size_pos
      have := c.utf8Size_pos
      have := d.utf8Size_pos
      simp only [List.take_succ_cons, List.take_zero, Text.byteLength_cons, Text.byteLength_nil]
      omega
    rw [if_neg hlong]
    simp only [h]

theorem delimited_hexQuad : Delimited hexQuad where
  reads {cs n rest} h := by
    obtain ⟨a, b, c, d, rfl, hn⟩ := hexQuad_eq_ok_iff.1 h
    exact ⟨[a, b, c, d], List.cons_ne_nil _ _, rfl,
      fun t => hexQuad_eq_ok_iff.2 ⟨a, b, c, d, rfl, hn⟩⟩

/-- A `u` escape is four digits, or those of a leading half with an escape of a trailing half
behind them. -/
theorem unicodeEscape_eq_ok_iff {cs rest : List Char} {x : Char} :
    unicodeEscape cs = .ok (x, rest) ↔
      ∃ n middle, hexQuad cs = .ok (n, middle) ∧ isTrailing n = false ∧
        ((isLeading n = false ∧ x = Char.ofNat n ∧ rest = middle) ∨
          (isLeading n = true ∧ ∃ m body, middle = '\\' :: 'u' :: body ∧
            hexQuad body = .ok (m, rest) ∧ isTrailing m = true ∧ x = ofPair n m)) := by
  unfold unicodeEscape
  constructor
  · intro h
    cases e : hexQuad cs with
    | error _ => rw [e] at h; cases h
    | ok r =>
      obtain ⟨n, middle⟩ := r
      rw [e] at h
      refine ⟨n, middle, rfl, ?_⟩
      cases ht : isTrailing n
      case true => simp [ht] at h
      refine ⟨rfl, ?_⟩
      cases hl : isLeading n
      case false =>
        simp only [ht, hl, Bool.false_eq_true, if_false, Except.ok.injEq, Prod.mk.injEq] at h
        exact .inl ⟨rfl, h.1.symm, h.2.symm⟩
      simp only [ht, hl, Bool.false_eq_true, if_false, if_true] at h
      split at h
      · cases h
      · cases h
      · rename_i body
        cases e' : hexQuad body with
        | error _ => rw [e'] at h; cases h
        | ok r =>
          obtain ⟨m, rest'⟩ := r
          rw [e'] at h
          cases hm : isTrailing m
          case false => simp [hm] at h
          simp only [hm, if_true, Except.ok.injEq, Prod.mk.injEq] at h
          exact .inr ⟨rfl, m, body, rfl, h.2 ▸ e', hm, h.1.symm⟩
      · cases h
  · rintro ⟨n, middle, hn, ht, ⟨hl, hx, rfl⟩ | ⟨hl, m, body, rfl, hm, htm, hx⟩⟩
    · simp [hn, ht, hl, hx]
    · simp [hn, ht, hl, hm, htm, hx]

theorem delimited_unicodeEscape : Delimited unicodeEscape where
  reads {cs x rest} h := by
    obtain ⟨n, middle, hn, ht, hcase⟩ := unicodeEscape_eq_ok_iff.1 h
    obtain ⟨d, hne, rfl, hd⟩ := delimited_hexQuad.reads hn
    rcases hcase with ⟨hl, hx, rfl⟩ | ⟨hl, m, body, rfl, hm, htm, hx⟩
    · exact ⟨d, hne, rfl, fun t => unicodeEscape_eq_ok_iff.2 ⟨n, t, hd t, ht, .inl ⟨hl, hx, rfl⟩⟩⟩
    · obtain ⟨e, _, rfl, he⟩ := delimited_hexQuad.reads hm
      refine ⟨d ++ '\\' :: 'u' :: e, by simp, by simp, fun t => ?_⟩
      rw [List.append_assoc]
      exact unicodeEscape_eq_ok_iff.2
        ⟨n, _, hd _, ht, .inr ⟨hl, m, e ++ t, rfl, he t, htm, hx⟩⟩

theorem delimited_escape : Delimited escape where
  reads {cs x rest} h := by
    cases cs with
    | nil => cases h
    | cons c cs =>
      by_cases hu : c = 'u'
      · subst hu
        obtain ⟨d, _, rfl, hd⟩ := delimited_unicodeEscape.reads h
        exact ⟨'u' :: d, List.cons_ne_nil _ _, rfl, hd⟩
      · cases he : shortEscape? c with
        | none => simp [escape, he] at h
        | some e =>
          simp only [escape, he, Except.ok.injEq, Prod.mk.injEq] at h
          obtain ⟨rfl, rfl⟩ := h
          exact ⟨[c], List.cons_ne_nil _ _, rfl, fun t => by simp [escape, he]⟩

theorem delimited_characters : Delimited characters where
  reads {cs} := by
    fun_induction characters cs with
    | case1 => intro x rest h; cases h
    | case2 cs =>
      intro x rest h
      cases h
      refine ⟨['\x22'], List.cons_ne_nil _ _, rfl, fun t => ?_⟩
      rw [List.cons_append, characters, if_pos rfl, List.nil_append]
    | case3 => intro x rest h; cases h
    | case4 => intro x rest h; cases h
    | case5 cs e body he hlt es rest' hes hq ih =>
      intro x rest h
      cases h
      obtain ⟨d, hne, rfl, hd⟩ := delimited_escape.reads he
      obtain ⟨d', _, rfl, hd'⟩ := ih hes
      refine ⟨'\\' :: (d ++ d'), List.cons_ne_nil _ _, by simp, fun t => ?_⟩
      have hguard : (d' ++ t).length < (d ++ (d' ++ t)).length := by
        have := List.length_pos_iff.2 hne
        simp only [List.length_append]
        omega
      rw [List.cons_append, List.append_assoc, characters, if_neg hq, if_pos rfl, hd]
      simp only [dif_pos hguard, hd' t]
    | case6 => intro x rest h; cases h
    | case7 => intro x rest h; cases h
    | case8 => intro x rest h; cases h
    | case9 c cs hq hb hc es rest' hes ih =>
      intro x rest h
      cases h
      obtain ⟨d, _, rfl, hd⟩ := ih hes
      refine ⟨c :: d, List.cons_ne_nil _ _, rfl, fun t => ?_⟩
      rw [List.cons_append, characters, if_neg hq, if_neg hb, if_neg hc, hd t]

theorem steady_text : Steady p text :=
  delimited_characters.steady.map String.ofList

/-! ### Numbers -/

theorem steady_digits :
    Steady False fun cs => .ok (cs.takeWhile isDigit, cs.dropWhile isDigit) where
  reads {cs ds rest} h := by
    cases h
    refine ⟨cs.takeWhile isDigit, List.takeWhile_append_dropWhile.symm, fun t ht => ?_⟩
    have hdigits : ∀ x ∈ cs.takeWhile isDigit, isDigit x = true :=
      List.all_eq_true.1 List.all_takeWhile
    -- no digit stands behind the digits that were read, so none stands there now
    have hstop : t.takeWhile isDigit = [] ∧ t.dropWhile isDigit = t := by
      cases t with
      | nil => exact ⟨rfl, rfl⟩
      | cons c t =>
        obtain ⟨⟨⟩⟩ | ⟨⟨⟩⟩ | hhead := ht
        have hc := List.head?_dropWhile_not isDigit cs
        rw [← hhead] at hc
        have hc : ¬ isDigit c = true := by simpa using hc
        exact ⟨List.takeWhile_cons_of_neg hc, List.dropWhile_cons_of_neg hc⟩
    rw [List.takeWhile_append_of_pos hdigits, List.dropWhile_append_of_pos hdigits, hstop.1,
      hstop.2, List.append_nil]

theorem steady_digitRun (atEnd : Fault) (c : Char) :
    Steady False fun cs => digitRun atEnd (c :: cs) :=
  .ite (fun _ => (steady_digits).map (c :: ·)) fun _ => .error _

theorem steady_wholePart (atEnd : Fault) (c : Char) :
    Steady False fun cs => wholePart atEnd (c :: cs) := by
  by_cases hc : c = '0'
  · subst hc
    refine .peek (fun d => if isDigit d then some fun _ => .error .malformed else none) rfl
      (fun d ds => ?_) fun d g h => ?_
    · unfold wholePart
      by_cases hd : isDigit d <;> simp [hd]
    · split at h <;> cases h
      exact .error _
  · have e : (fun cs => wholePart atEnd (c :: cs)) = fun cs => digitRun atEnd (c :: cs) := by
      funext cs
      unfold wholePart
      split <;> simp_all
    exact e ▸ steady_digitRun atEnd c

theorem steady_fraction (atEnd : Fault) : Steady False (fraction atEnd) := by
  refine .peek (fun c => if c = '.' then some (digitRun atEnd) else none) rfl
    (fun c cs => ?_) fun c g h => ?_
  · by_cases hc : c = '.'
    · subst hc
      rfl
    · rw [if_neg hc]
      unfold fraction
      split <;> simp_all
  · split at h <;> cases h
    exact .cons rfl (steady_digitRun atEnd)

theorem steady_signedRun (atEnd : Fault) : Steady False (signedRun atEnd) := by
  refine .cons rfl fun c => ?_
  have hrun : Steady False (digitRun atEnd) := .cons rfl (steady_digitRun atEnd)
  let exponentOf (ds : List Char) : Int := ((Text.digits? 10 0 ds).getD 0 : Nat)
  by_cases hm : c = '-'
  · subst hm
    exact hrun.map fun ds => -exponentOf ds
  by_cases hp : c = '+'
  · subst hp
    exact hrun.map exponentOf
  · have e : (fun cs => signedRun atEnd (c :: cs)) = fun cs =>
        (digitRun atEnd (c :: cs)).map fun r => (exponentOf r.1, r.2) := by
      funext cs
      unfold signedRun
      split
      simp_all [exponentOf]
    exact e ▸ (steady_digitRun atEnd c).map exponentOf

theorem steady_exponent (atEnd : Fault) : Steady False (exponent atEnd) := by
  refine .peek (fun c => if c = 'e' ∨ c = 'E' then some (signedRun atEnd) else none) rfl
    (fun c cs => ?_) fun c g h => ?_
  · by_cases hc : c = 'e' ∨ c = 'E'
    · rw [if_pos hc]
      obtain rfl | rfl := hc <;> rfl
    · rw [if_neg hc]
      unfold exponent
      split <;> simp_all
  · split at h <;> cases h
    exact steady_signedRun atEnd

/-- Read what follows the digits before the point. -/
def afterWhole (atEnd : Fault) (negative : Bool) (whole : List Char) : Scan Number := fun cs => do
  let (decimals, cs) ← fraction atEnd cs
  let (e, cs) ← exponent atEnd cs
  let digits := (Text.digits? 10 0 (whole ++ decimals)).getD 0
  return (⟨negative, digits, e - decimals.length⟩, cs)

theorem steady_afterWhole (atEnd : Fault) (negative : Bool) (whole : List Char) :
    Steady False (afterWhole atEnd negative whole) :=
  (steady_fraction atEnd).bind fun ds => (steady_exponent atEnd).bind fun e =>
    .pure (⟨negative, (Text.digits? 10 0 (whole ++ ds)).getD 0, e - ds.length⟩ : Number)

theorem steady_number (atEnd : Fault) (c : Char) :
    Steady False fun cs => number atEnd (c :: cs) := by
  by_cases hm : c = '-'
  · subst hm
    exact (Steady.cons rfl (steady_wholePart atEnd)).bind (steady_afterWhole atEnd true)
  · have e : (fun cs => number atEnd (c :: cs)) =
        fun cs => wholePart atEnd (c :: cs) >>= fun r => afterWhole atEnd false r.1 r.2 := by
      funext cs
      unfold number
      split
      simp_all [afterWhole]
    exact e ▸ (steady_wholePart atEnd c).bind (steady_afterWhole atEnd false)

theorem steady_finiteNumber (c : Char) : Steady False fun cs => finiteNumber (c :: cs) := by
  have hfinite (n : Number) : Steady False fun rest =>
      if n.isFinite then .ok (n, rest) else .error .malformed :=
    .ite (fun _ => .pure n) fun _ => .error _
  exact (steady_number .unfinished c).bind hfinite

/-! ### Arrays and objects -/

theorem delimited_moreElements {item : Scan α} (hitem : Steady False item) :
    Delimited (moreElements item) where
  reads {cs} := by
    fun_induction moreElements item cs with
    | case1 => intro xs rest h; cases h
    | case2 => intro xs rest h; cases h
    | case3 cs x rest hx body hc =>
      intro xs rest h
      cases h
      obtain ⟨d, rfl, hd⟩ := hitem.reads_to_token hx hc
      refine ⟨d ++ [']'], by simp, by simp, fun t => ?_⟩
      obtain ⟨rest', hx', hc'⟩ := hd t
      rw [List.append_assoc, List.singleton_append, moreElements, hx']
      simp only [hc', if_pos]
    | case4 => intro xs rest h; cases h
    | case5 cs x rest hx body hlt xs end' hxs hc hne ih =>
      intro xs rest h
      cases h
      obtain ⟨d, rfl, hd⟩ := hitem.reads_to_token hx hc
      obtain ⟨d', _, rfl, hd'⟩ := ih hxs
      refine ⟨d ++ ',' :: d', by simp, by simp, fun t => ?_⟩
      -- the comma behind the element fixes it, also if it is a number
      obtain ⟨rest', hx', hc'⟩ := hd (d' ++ t)
      have hguard : (d' ++ t).length < (d ++ ',' :: (d' ++ t)).length := by
        simp only [List.length_append, List.length_cons]
        omega
      rw [List.append_assoc, List.cons_append, moreElements, hx']
      simp only [hc', if_neg hne, if_pos, dif_pos hguard, hd' t]
    | case6 => intro xs rest h; cases h
    | case7 => intro xs rest h; cases h

theorem steady_elements {item : Scan α} (hitem : Steady False item) : Steady p (elements item) := by
  refine .token
    (f := fun c rest => if c = ']' then .ok ([], rest) else moreElements item (c :: rest))
    (fun h => by rw [elements, h]) (fun {cs c rest} h => ?_)
    fun c => .ite (fun _ => .pure []) fun _ => (delimited_moreElements hitem).steady_cons c
  rw [elements, h]
  split <;> simp_all

theorem steady_key {text : Scan κ} (htext : Steady p text) : Steady p (key text) := by
  refine .token (f := fun c rest => if c = '\x22' then text rest else .error .malformed)
    (fun h => by rw [key, h]) (fun {cs c rest} h => ?_)
    fun c => .ite (fun _ => htext) fun _ => .error _
  rw [key, h]
  split <;> simp_all

theorem delimited_moreEntries {text : Scan κ} {member : σ → κ → Scan σ} (htext : Steady True text)
    (hmember : ∀ s k, Steady False (member s k)) (s : σ) :
    Delimited (moreEntries text member s) where
  reads {cs} := by
    fun_induction moreEntries text member s cs with
    | case1 => intro s' rest h; cases h
    | case2 => intro s' rest h; cases h
    | case3 => intro s' rest h; cases h
    | case4 s cs k afterKey hk s' rest hs body hc =>
      intro s' rest h
      cases h
      obtain ⟨d, rfl, hd⟩ := (hmember s k).reads_to_token hs hc
      obtain ⟨e, rfl, he⟩ := (steady_key htext).reads hk
      refine ⟨e ++ (d ++ ['\x7d']), by simp, by simp, fun t => ?_⟩
      obtain ⟨rest', hs', hc'⟩ := hd t
      rw [List.append_assoc, List.append_assoc, List.singleton_append, moreEntries,
        he _ (.inl trivial)]
      simp only [hs', hc', if_pos]
    | case5 s cs k afterKey hk s' rest hs body hlt hc hne ih =>
      intro s'' end' h
      obtain ⟨d, rfl, hd⟩ := (hmember s k).reads_to_token hs hc
      obtain ⟨e, rfl, he⟩ := (steady_key htext).reads hk
      obtain ⟨d', _, rfl, hd'⟩ := ih h
      refine ⟨e ++ (d ++ ',' :: d'), by simp, by simp, fun t => ?_⟩
      obtain ⟨rest', hs', hc'⟩ := hd (d' ++ t)
      have hguard : (d' ++ t).length < (e ++ (d ++ ',' :: (d' ++ t))).length := by
        simp only [List.length_append, List.length_cons]
        omega
      rw [List.append_assoc, List.append_assoc, List.cons_append, moreEntries, he _ (.inl trivial)]
      simp only [hs', hc', if_neg hne, if_pos, dif_pos hguard, hd' t]
    | case6 => intro s' rest h; cases h
    | case7 => intro s' rest h; cases h

theorem steady_entries {text : Scan κ} {member : σ → κ → Scan σ} (htext : Steady True text)
    (hmember : ∀ s k, Steady False (member s k)) (s : σ) : Steady p (entries text member s) := by
  refine .token (f := fun c rest =>
      if c = '\x7d' then .ok (s, rest) else moreEntries text member s (c :: rest))
    (fun h => by rw [entries, h]) (fun {cs c rest} h => ?_)
    fun c => .ite (fun _ => .pure s) fun _ =>
      (delimited_moreEntries htext hmember s).steady_cons c
  rw [entries, h]
  split <;> simp_all

theorem steady_pair {item : Scan α} (hitem : Steady p item) (earlier : List (String × α))
    (k : String) : Steady p (pair item earlier k) :=
  steady_colon.bind fun _ => hitem.bind fun v => .pure ((k, v) :: earlier)

/-! ### Values -/

/-- Read a value behind its first character. -/
def valueBehind (nested : Option (Scan Value)) (c : Char) : Scan Value := fun rest =>
  if c = 'n' then (exactly ['u', 'l', 'l'] rest).map fun (_, rest) => (.null, rest)
  else if c = 't' then (exactly ['r', 'u', 'e'] rest).map fun (_, rest) => (.bool true, rest)
  else if c = 'f' then
    (exactly ['a', 'l', 's', 'e'] rest).map fun (_, rest) => (.bool false, rest)
  else if c = '\x22' then (text rest).map fun (s, rest) => (.string s, rest)
  else if c = '[' then nested.elim (.error .malformed) fun item =>
    (elements item rest).map fun (vs, rest) => (.array vs, rest)
  else if c = '\x7b' then nested.elim (.error .malformed) fun item =>
    (entries text (pair item) [] rest).map fun (ms, rest) => (.object ms.reverse, rest)
  else if c = '-' || isDigit c then
    (finiteNumber (c :: rest)).map fun (n, rest) => (.number n, rest)
  else .error .malformed

theorem valueWith_of_token {nested : Option (Scan Value)} {cs rest : List Char} {c : Char}
    (h : skipSpace cs = c :: rest) : valueWith nested cs = valueBehind nested c rest := by
  rw [valueWith, h]
  unfold valueBehind
  cases nested <;> split <;> simp_all

theorem valueWith_of_nil {nested : Option (Scan Value)} {cs : List Char}
    (h : skipSpace cs = []) : valueWith nested cs = .error .unfinished := by
  rw [valueWith, h]

theorem steady_valueBehind {nested : Option (Scan Value)}
    (hnested : ∀ item ∈ nested, Steady False item) (c : Char) :
    Steady ((c = '-' || isDigit c) = false) (valueBehind nested c) := by
  refine .ite (fun _ => (steady_exactly _).map fun _ => Value.null) fun _ => ?_
  refine .ite (fun _ => (steady_exactly _).map fun _ => Value.bool true) fun _ => ?_
  refine .ite (fun _ => (steady_exactly _).map fun _ => Value.bool false) fun _ => ?_
  refine .ite (fun _ => steady_text.map Value.string) fun _ => ?_
  refine .ite (fun _ => ?_) fun _ => .ite (fun _ => ?_) fun _ =>
    .ite (fun h => ?_) fun _ => .error _
  · cases nested with
    | none => exact .error _
    | some item => exact (steady_elements (hnested item rfl)).map Value.array
  · cases nested with
    | none => exact .error _
    | some item =>
      exact (steady_entries steady_text (steady_pair (hnested item rfl)) []).map
        fun ms => Value.object ms.reverse
  · -- a number may go on in the text behind it
    exact ((steady_finiteNumber c).map Value.number).mono fun hc => by simp [h] at hc

theorem steady_valueWith {nested : Option (Scan Value)}
    (hnested : ∀ item ∈ nested, Steady False item) : Steady False (valueWith nested) :=
  .token valueWith_of_nil valueWith_of_token fun c => (steady_valueBehind hnested c).mono False.elim

theorem steady_value : ∀ depth : Nat, Steady False (value depth)
  | 0 => steady_valueWith (by simp)
  | depth + 1 => steady_valueWith (by simpa using steady_value depth)

/-- Behind the first character of a number only a number is read. -/
theorem eq_number_of_valueBehind {nested : Option (Scan Value)} {c : Char} {cs rest : List Char}
    {v : Value} (hc : (c = '-' || isDigit c) = true)
    (h : valueBehind nested c cs = .ok (v, rest)) : ∃ n, v = .number n := by
  have hother : ∀ d ∈ ['n', 't', 'f', '\x22', '[', '\x7b'], ¬ c = d := by
    rintro d hd rfl
    have hnot : ∀ d ∈ ['n', 't', 'f', '\x22', '[', '\x7b'], (d = '-' || isDigit d) = false := by
      simp only [List.forall_mem_cons]
      exact ⟨rfl, rfl, rfl, rfl, rfl, rfl, fun _ h => absurd h List.not_mem_nil⟩
    rw [hnot c hd] at hc
    cases hc
  simp only [List.forall_mem_cons] at hother
  obtain ⟨h₁, h₂, h₃, h₄, h₅, h₆, _⟩ := hother
  rw [valueBehind, if_neg h₁, if_neg h₂, if_neg h₃, if_neg h₄, if_neg h₅, if_neg h₆, if_pos hc] at h
  cases e : finiteNumber (c :: cs) with
  | error _ => rw [e] at h; cases h
  | ok r => rw [e] at h; cases h; exact ⟨_, rfl⟩

/-- Every value takes at least a character, and all but numbers tell their own end. -/
theorem value_reads {depth : Nat} {cs rest : List Char} {v : Value}
    (h : value depth cs = .ok (v, rest)) (hv : ∀ n, v ≠ .number n) :
    ∃ d, d ≠ [] ∧ cs = d ++ rest ∧ ∀ t, value depth (d ++ t) = .ok (v, t) := by
  obtain ⟨nested, hvalue, hnested⟩ : ∃ nested, value depth = valueWith nested ∧
      ∀ item ∈ nested, Steady False item := by
    cases depth with
    | zero => exact ⟨none, rfl, by simp⟩
    | succ depth => exact ⟨some (value depth), rfl, by simpa using steady_value depth⟩
  rw [hvalue] at h ⊢
  cases hc : skipSpace cs with
  | nil => rw [valueWith_of_nil hc] at h; cases h
  | cons c body =>
    rw [valueWith_of_token hc] at h
    have hother : (c = '-' || isDigit c) = false := by
      rw [Bool.eq_false_iff]
      intro hnum
      obtain ⟨n, hn⟩ := eq_number_of_valueBehind hnum h
      exact hv n hn
    obtain ⟨space, hspace, hfirst, rfl⟩ := exists_space_of_token hc
    obtain ⟨d, rfl, hd⟩ := (steady_valueBehind hnested c).reads h
    refine ⟨space ++ c :: d, by simp, by simp, fun t => ?_⟩
    rw [List.append_assoc, List.cons_append,
      valueWith_of_token (skipSpace_of_token hspace hfirst (d ++ t))]
    exact hd t (.inl hother)

/-! ### Texts of documents -/

section documents

variable {document : Scan α} (hdocument : Delimited document)

include hdocument

/-- The loop over documents without its guard, which always holds. -/
theorem documents_of_token {cs body : List Char} {c : Char} (hc : skipSpace cs = c :: body) :
    documents document cs = match document (c :: body) with
      | .error f => .error f
      | .ok (x, rest) => (documents document rest).map (x :: ·) := by
  rw [documents]
  simp only [hc]
  cases hd : document (c :: body) with
  | error _ => rfl
  | ok r =>
    obtain ⟨x, rest⟩ := r
    have hlt : rest.length < cs.length := by
      obtain ⟨space, _, _, rfl⟩ := exists_space_of_token hc
      have := hdocument.length_lt hd
      rw [List.length_append]
      omega
    simp only [dif_pos hlt]
    cases documents document rest <;> rfl

theorem documents_congr {cs cs' : List Char} (h : skipSpace cs = skipSpace cs') :
    documents document cs = documents document cs' := by
  cases hc : skipSpace cs with
  | nil => rw [documents, documents, ← h, hc]
  | cons c body =>
    rw [documents_of_token hdocument hc, documents_of_token hdocument (h ▸ hc)]

/-- A text of documents does not change what is read from the text behind it. -/
theorem documents_append (cs : List Char) : ∀ {xs}, documents document cs = .ok xs →
    ∀ t, documents document (cs ++ t) = (documents document t).map (xs ++ ·) := by
  fun_induction documents document cs with
  | case1 cs hc =>
    intro xs h t
    cases h
    -- white space alone: the text behind it is read as if it stood alone
    rw [documents_congr hdocument (skipSpace_append_of_nil hc t)]
    cases documents document t <;> rfl
  | case2 => intro xs h; cases h
  | case3 => intro xs h; cases h
  | case4 cs c body hc x rest hx hlt xs hxs ih =>
    intro xs h t
    cases h
    obtain ⟨space, hspace, hfirst, rfl⟩ := exists_space_of_token hc
    have htoken := skipSpace_of_token hspace hfirst (body ++ t)
    have hxt := hdocument.append hx t
    rw [List.append_assoc, List.cons_append, documents_of_token hdocument htoken,
      ← List.cons_append]
    simp only [hxt, ih hxs t]
    cases documents document t <;> rfl
  | case5 => intro xs h; cases h

end documents

end MessageCatalog.Json

namespace MessageCatalog.CallSite

theorem document_eq_ok_iff {cs rest : List Char} {sites : List CallSite} :
    document cs = .ok (sites, rest) ↔
      ∃ v, Json.value Json.depthLimit cs = .ok (v, rest) ∧ ofDocument v = some sites := by
  unfold document
  constructor
  · intro h
    cases hv : Json.value Json.depthLimit cs with
    | error _ => rw [hv] at h; cases h
    | ok r =>
      obtain ⟨v, rest'⟩ := r
      rw [hv] at h
      cases hs : ofDocument v with
      | none => simp only [hs] at h; cases h
      | some sites' =>
        simp only [hs] at h
        cases h
        exact ⟨v, rfl, hs⟩
  · rintro ⟨v, hv, hs⟩
    simp only [hv, hs]

/-- A document of call sites ends with its bracket. -/
theorem delimited_document : Json.Delimited document where
  reads {cs sites rest} h := by
    obtain ⟨v, hv, hs⟩ := document_eq_ok_iff.1 h
    have hnumber : ∀ n, v ≠ .number n := by
      rintro n rfl
      cases hs
    obtain ⟨d, hne, rfl, hd⟩ := Json.value_reads hv hnumber
    exact ⟨d, hne, rfl, fun t => document_eq_ok_iff.2 ⟨v, hd t, hs⟩⟩

/-- Texts of call sites can be put behind each other: the call sites of the first come first, and
a fault of the second stays its fault. -/
theorem parse_append {a : String} {xs : List CallSite} (h : parse a = .ok xs) (b : String) :
    parse (a ++ b) = (parse b).map (xs ++ ·) := by
  unfold parse at h ⊢
  cases ha : Json.documents document a.toList with
  | error _ => rw [ha] at h; cases h
  | ok xss =>
    rw [ha] at h
    cases h
    rw [String.toList_append, Json.documents_append delimited_document _ ha]
    cases Json.documents document b.toList with
    | error _ => rfl
    | ok yss => simp [Except.map]

/-- The call sites of several texts behind each other are those of each text, in order. -/
theorem parse_join : ∀ {texts : List String} {xss : List (List CallSite)},
    texts.mapM parse = .ok xss → parse (String.join texts) = .ok xss.flatten
  | [], xss, h => by
      cases h
      simp [parse, Json.documents, Json.skipSpace, Except.map]
  | text :: texts, xss, h => by
      obtain ⟨xs, xss, hxs, hxss, rfl⟩ := mapM_cons_eq_ok h
      rw [String.join_cons, parse_append hxs, parse_join hxss]
      rfl

end MessageCatalog.CallSite
