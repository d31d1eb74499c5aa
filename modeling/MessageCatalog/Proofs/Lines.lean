import MessageCatalog.Proofs.Report

/-! # The lines of a source

`Text.OnLine` says what stands on a line of a text by its place alone: a stretch without newlines,
between two newlines or the ends of the text, with as many newlines before it as there are lines
above.  A source is split into exactly these stretches (`getElem?_splitOn_eq_some_iff`), so a line
that is shown from a source is the one with that number, less one carriage return at its end
(`lineAt?_splitLines_eq_some_iff`), and only numbers beyond the source have no line. -/

namespace MessageCatalog

namespace Text

/-- `raw` stands on line `n` of the text, counted from one. -/
def OnLine (text : List Char) (n : Nat) (raw : List Char) : Prop :=
  '\n' ∉ raw ∧ ∃ front back, text = front ++ raw ++ back ∧ front.count '\n' + 1 = n ∧
    (front = [] ∨ ∃ above, front = above ++ ['\n']) ∧ (back = [] ∨ ∃ below, back = '\n' :: below)

theorem length_splitOn (a : Char) (text : List Char) :
    (text.splitOn a).length = text.count a + 1 := by
  induction text with
  | nil => rfl
  | cons c text ih =>
    rw [List.splitOn_cons_eq_if_modifyHead, List.count_cons]
    split
    · rw [List.length_cons, ih]
    · rw [List.length_modifyHead, ih]

/-- What stands before the first newline is the first line. -/
theorem getElem?_zero_splitOn {raw back : List Char} (hraw : '\n' ∉ raw)
    (hback : back = [] ∨ ∃ below, back = '\n' :: below) :
    ((raw ++ back).splitOn '\n')[0]? = some raw := by
  rcases hback with rfl | ⟨below, rfl⟩
  · rw [List.append_nil, List.splitOn_eq_singleton hraw]
    rfl
  · rw [List.splitOn_append_cons_self_of_not_mem hraw]
    rfl

theorem onLine_of_getElem?_splitOn : ∀ {n : Nat} {text raw : List Char},
    (text.splitOn '\n')[n]? = some raw → OnLine text (n + 1) raw := by
  intro n
  -- on the number of lines above, the first of which is cut off
  induction n with
  | zero =>
    intro text raw h
    by_cases hmem : '\n' ∈ text
    · obtain ⟨first, rest, rfl, hfirst⟩ := List.eq_append_cons_of_mem hmem
      rw [List.splitOn_append_cons_self_of_not_mem hfirst] at h
      cases h
      exact ⟨hfirst, [], '\n' :: rest, rfl, rfl, .inl rfl, .inr ⟨rest, rfl⟩⟩
    · rw [List.splitOn_eq_singleton hmem] at h
      cases h
      exact ⟨hmem, [], [], (List.append_nil _).symm, rfl, .inl rfl, .inl rfl⟩
  | succ n ih =>
    intro text raw h
    by_cases hmem : '\n' ∈ text
    · obtain ⟨first, rest, rfl, hfirst⟩ := List.eq_append_cons_of_mem hmem
      rw [List.splitOn_append_cons_self_of_not_mem hfirst, List.getElem?_cons_succ] at h
      obtain ⟨hraw, front, back, rfl, hcount, hfront, hback⟩ := ih h
      refine ⟨hraw, first ++ '\n' :: front, back, by simp, ?_, .inr ?_, hback⟩
      · rw [List.count_append, List.count_cons_self, List.count_eq_zero_of_not_mem hfirst]
        omega
      · rcases hfront with rfl | ⟨above, rfl⟩
        · exact ⟨first, rfl⟩
        · exact ⟨first ++ '\n' :: above, by simp⟩
    · rw [List.splitOn_eq_singleton hmem] at h
      cases h

theorem getElem?_splitOn_of_onLine {n : Nat} {text raw : List Char} (h : OnLine text (n + 1) raw) :
    (text.splitOn '\n')[n]? = some raw := by
  obtain ⟨hraw, front, back, rfl, hcount, hfront, hback⟩ := h
  rcases hfront with rfl | ⟨above, rfl⟩
  · obtain rfl : n = 0 := by simpa using hcount.symm
    exact getElem?_zero_splitOn hraw hback
  · -- the lines above come first, and there are `n` of them
    have hn : (above.splitOn '\n').length = n := by
      rw [List.count_append, List.count_singleton_self] at hcount
      rw [length_splitOn]
      omega
    have htext : above ++ ['\n'] ++ raw ++ back = above ++ '\n' :: (raw ++ back) := by simp
    rw [htext, List.splitOn_append_cons_self, List.getElem?_append_right (by omega), hn,
      Nat.sub_self]
    exact getElem?_zero_splitOn hraw hback

/-- A text is split into what stands on its lines. -/
theorem getElem?_splitOn_eq_some_iff {n : Nat} {text raw : List Char} :
    (text.splitOn '\n')[n]? = some raw ↔ OnLine text (n + 1) raw :=
  ⟨onLine_of_getElem?_splitOn, getElem?_splitOn_of_onLine⟩

theorem dropFinal_eq_iff {c : Char} {cs rest : List Char} :
    dropFinal c cs = rest ↔ cs = rest ++ [c] ∨ cs = rest ∧ cs.getLast? ≠ some c := by
  rw [dropFinal]
  by_cases h : cs.getLast? = some c
  · obtain ⟨front, rfl⟩ := List.getLast?_eq_some_iff.1 h
    simp
  · rw [if_neg h]
    constructor
    · exact fun he => .inr ⟨he, h⟩
    · rintro (rfl | ⟨he, _⟩)
      · simp at h
      · exact he

end Text

namespace SourceCache

/-- `line` is line `n` of the source, counted from one, without one carriage return at its end. -/
def IsLine (source : String) (n : Nat) (line : String) : Prop :=
  ∃ raw, Text.OnLine source.toList n raw ∧
    (raw = line.toList ++ ['\r'] ∨ raw = line.toList ∧ raw.getLast? ≠ some '\r')

theorem lineAt?_splitLines_eq_some_iff {source line : String} {n : Nat} :
    lineAt? (splitLines source) n = some line ↔ IsLine source n line := by
  cases n with
  | zero =>
    constructor
    · intro h
      cases h
    · rintro ⟨raw, ⟨_, _, _, _, hcount, _⟩, _⟩
      omega
  | succ n =>
    rw [lineAt?, splitLines, List.getElem?_map, Option.map_eq_some_iff]
    refine exists_congr fun raw => and_congr Text.getElem?_splitOn_eq_some_iff ?_
    rw [← Text.dropFinal_eq_iff, ← String.toList_inj, String.toList_ofList]

theorem lineAt?_splitLines_eq_none_iff {source : String} {n : Nat} :
    lineAt? (splitLines source) n = none ↔ n = 0 ∨ source.toList.count '\n' + 1 < n := by
  cases n with
  | zero => simp [lineAt?]
  | succ n =>
    rw [lineAt?, List.getElem?_eq_none_iff, splitLines, List.length_map, Text.length_splitOn]
    omega

end SourceCache

end MessageCatalog
