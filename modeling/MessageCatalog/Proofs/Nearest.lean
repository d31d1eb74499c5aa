import MessageCatalog.Proofs.Provenance
import MessageCatalog.Settings.Search

/-! # The nearest settings

The search for settings goes from a directory to its parent, and on from there.  A parent has all
components but the last (`components_of_parentOf`).  As a text it is cut off, by more than slashes
(`below_of_parentOf`).  So the paths get shorter, there are only as many as the first has
characters, and no two of them give the same path for a name in them (`join_ne_of_below`).

`EndsAt` says where a search has to end: in the first directory that has settings or the data of a
repository.  There it ends (`search_of_endsAt`), and it has found something if there are settings.
What is in the directories above does not matter. -/

namespace MessageCatalog

namespace Path

/-! ### Parents -/

/-- The path goes on behind `up`, and by more than slashes. -/
def Below (up path : List Char) : Prop := ∃ rest, path = up ++ rest ∧ ∃ c ∈ rest, c ≠ '/'

theorem Below.trans {a b c : List Char} (hab : Below a b) (hbc : Below b c) : Below a c := by
  obtain ⟨r, rfl, x, hx, hslash⟩ := hab
  obtain ⟨s, rfl, _⟩ := hbc
  exact ⟨r ++ s, List.append_assoc a r s, x, List.mem_append_left s hx, hslash⟩

theorem Below.length_lt {up path : List Char} (h : Below up path) : up.length < path.length := by
  obtain ⟨rest, rfl, x, hx, _⟩ := h
  have := List.length_pos_of_mem hx
  rw [List.length_append]
  omega

theorem splitLead_append (path : List Char) : (splitLead path).1 ++ (splitLead path).2 = path := by
  unfold splitLead
  split <;> rfl

theorem mem_intercalate {sep part : List Char} {c : Char} (hc : c ∈ part) :
    ∀ {parts : List (List Char)}, part ∈ parts → c ∈ sep.intercalate parts
  | [p], h => by
      rw [List.mem_singleton] at h
      rw [List.intercalate_singleton, ← h]
      exact hc
  | p :: q :: parts, h => by
      rw [List.intercalate_cons_cons, List.mem_append, List.mem_append]
      rcases List.mem_cons.1 h with rfl | h
      · exact .inl (.inl hc)
      · exact .inr (mem_intercalate hc h)

/-- Without its last parts, a path is cut off somewhere, and all of these parts are behind that. -/
theorem exists_intercalate_append (sep : List Char) (ys : List (List Char)) :
    ∀ xs : List (List Char), ∃ rest, sep.intercalate (xs ++ ys) = sep.intercalate xs ++ rest ∧
      ∀ part ∈ ys, ∀ c ∈ part, c ∈ rest
  | [] => ⟨sep.intercalate ys, rfl, fun _ hpart _ hc => mem_intercalate hc hpart⟩
  | [x] => by
      cases ys with
      | nil => exact ⟨[], (List.append_nil _).symm, by simp⟩
      | cons y ys =>
        refine ⟨sep ++ sep.intercalate (y :: ys), ?_, fun part hpart c hc => ?_⟩
        · rw [List.singleton_append, List.intercalate_cons_cons, List.intercalate_singleton,
            List.append_assoc]
        · exact List.mem_append_right sep (mem_intercalate hc hpart)
  | x :: x' :: xs => by
      obtain ⟨rest, hrest, hmem⟩ := exists_intercalate_append sep ys (x' :: xs)
      refine ⟨rest, ?_, hmem⟩
      rw [List.cons_append] at hrest
      rw [List.cons_append, List.cons_append, List.intercalate_cons_cons, hrest,
        List.intercalate_cons_cons, List.append_assoc _ _ rest]

theorem exists_ne_slash {part : List Char} (hslash : '/' ∉ part) (h : isTrivial part = false) :
    ∃ c ∈ part, c ≠ '/' := by
  cases part with
  | nil => cases h
  | cons c part => exact ⟨c, List.mem_cons_self, fun hc => hslash (hc ▸ List.mem_cons_self)⟩

/-- The parts up to the last that leads somewhere, and those that are cut off with it. -/
theorem exists_cut {parts before : List (List Char)} {last : List Char}
    (h : parts.reverse.dropWhile isTrivial = last :: before) :
    ∃ cut, cut.filter (!isTrivial ·) = [last] ∧
      parts = (before.dropWhile isTrivial).reverse ++ cut := by
  have hlast : isTrivial last = false := by
    have hfirst := List.head?_dropWhile_not isTrivial parts.reverse
    rw [h] at hfirst
    simpa using hfirst
  have htrivial : ∀ l : List (List Char),
      (l.takeWhile isTrivial).reverse.filter (!isTrivial ·) = [] := by
    intro l
    have hall := List.all_eq_true.1 (List.all_takeWhile (p := isTrivial) (l := l))
    simpa using hall
  have hparts : parts = before.reverse ++ last :: (parts.reverse.takeWhile isTrivial).reverse := by
    have hsplit := List.takeWhile_append_dropWhile (p := isTrivial) (l := parts.reverse)
    rw [h] at hsplit
    have hreverse := congrArg List.reverse hsplit
    simpa using hreverse.symm
  have hbefore : before.reverse =
      (before.dropWhile isTrivial).reverse ++ (before.takeWhile isTrivial).reverse := by
    rw [← List.reverse_append, List.takeWhile_append_dropWhile]
  refine ⟨(before.takeWhile isTrivial).reverse ++
    last :: (parts.reverse.takeWhile isTrivial).reverse, ?_, ?_⟩
  · rw [List.filter_append, htrivial, List.filter_cons_of_pos (by simp [hlast]), htrivial]
    rfl
  · rw [← List.append_assoc, ← hbefore]
    exact hparts

/-- A path has a parent if it has a part that leads somewhere, or a leading dot. -/
theorem parentOf_cases (path : List Char) :
    (((splitLead path).2.splitOn '/').filter (!isTrivial ·) = [] ∧
      parentOf path = if (splitLead path).1 = ['.'] then some [] else none) ∨
    ∃ kept cut last, (splitLead path).2.splitOn '/' = kept ++ cut ∧
      cut.filter (!isTrivial ·) = [last] ∧ (∀ part ∈ kept.getLast?, isTrivial part = false) ∧
      parentOf path = some ((splitLead path).1 ++ ['/'].intercalate kept) := by
  unfold parentOf
  generalize splitLead path = split
  obtain ⟨lead, body⟩ := split
  cases hlast : (body.splitOn '/').reverse.dropWhile isTrivial with
  | nil =>
    have htrivial : ∀ part ∈ body.splitOn '/', isTrivial part = true := by
      simpa using List.dropWhile_eq_nil_iff.1 hlast
    refine .inl ⟨by simpa using htrivial, ?_⟩
    simp only [hlast]
  | cons last before =>
    obtain ⟨cut, hcut, hparts⟩ := exists_cut hlast
    refine .inr ⟨_, cut, last, hparts, hcut, fun part hpart => ?_, ?_⟩
    · have hfirst := List.head?_dropWhile_not isTrivial before
      rw [List.getLast?_reverse] at hpart
      rw [hpart] at hfirst
      exact hfirst
    · simp only [hlast]

/-- The parent of a path is what stands before its last component. -/
theorem below_of_parentOf {path up : List Char} (h : parentOf path = some up) : Below up path := by
  have hpath := splitLead_append path
  obtain ⟨_, hup⟩ | ⟨kept, cut, last, hparts, hcut, _, hup⟩ := parentOf_cases path
  · rw [hup, Option.ite_none_right_eq_some, Option.some.injEq] at h
    obtain ⟨hdot, rfl⟩ := h
    exact ⟨path, rfl, '.', by rw [← hpath, hdot]; exact List.mem_cons_self, by decide⟩
  · rw [hup, Option.some.injEq] at h
    have hlast : last ∈ cut.filter (!isTrivial ·) := hcut ▸ List.mem_singleton_self last
    rw [List.mem_filter, Bool.not_eq_true'] at hlast
    have hmem : last ∈ (splitLead path).2.splitOn '/' := by
      rw [hparts]
      exact List.mem_append_right kept hlast.1
    have hslash : '/' ∉ last := not_mem_of_mem_splitOn hmem
    obtain ⟨rest, hrest, hbehind⟩ := exists_intercalate_append ['/'] cut kept
    obtain ⟨c, hc, hne⟩ := exists_ne_slash hslash hlast.2
    refine ⟨rest, ?_, c, hbehind last hlast.1 c hc, hne⟩
    rw [← h, List.append_assoc, ← hrest, ← hparts, List.intercalate_splitOn, hpath]

/-! ### Components -/

/-- The components of a path: the leading slash or dot, and the parts that lead somewhere. -/
def components (path : List Char) : List (List Char) :=
  [(splitLead path).1].filter (!·.isEmpty) ++
    ((splitLead path).2.splitOn '/').filter (!isTrivial ·)

theorem splitLead_eq_nil_iff {path : List Char} : (splitLead path).1 = [] ↔
    path.head? ≠ some '/' ∧ path ≠ ['.'] ∧ ¬ ['.', '/'] <+: path := by
  unfold splitLead
  split
  · simp
  · simp
  · simp
  · rename_i h₁ h₂ h₃
    simp only [true_iff]
    refine ⟨?_, h₂, ?_⟩
    · intro h
      obtain ⟨rest, rfl⟩ := List.head?_eq_some_iff.1 h
      exact h₁ rest rfl
    · rintro ⟨rest, rfl⟩
      exact h₃ rest rfl

theorem splitLead_of_nil {path : List Char} (h : (splitLead path).1 = []) :
    splitLead path = ([], path) := by
  have hpath := splitLead_append path
  rw [h, List.nil_append] at hpath
  exact Prod.ext h hpath

theorem splitLead_cases (path : List Char) : (splitLead path).1 = [] ∨
    (splitLead path).1 = ['/'] ∨
    (splitLead path).1 = ['.'] ∧
      ((splitLead path).2 = [] ∨ ∃ more, (splitLead path).2 = '/' :: more) := by
  unfold splitLead
  split <;> simp

/-- The lead of a parent is that of the path. -/
theorem splitLead_of_kept {path : List Char} {kept cut : List (List Char)}
    (hparts : (splitLead path).2.splitOn '/' = kept ++ cut)
    (hlast : ∀ part ∈ kept.getLast?, isTrivial part = false) :
    splitLead ((splitLead path).1 ++ ['/'].intercalate kept) =
      ((splitLead path).1, ['/'].intercalate kept) := by
  rcases splitLead_cases path with hnil | hslash | ⟨hdot, hbody⟩
  · -- what is kept is the front of the path, which has no lead
    rw [hnil, List.nil_append]
    apply splitLead_of_nil
    rw [splitLead_of_nil hnil] at hparts
    obtain ⟨rest, hrest, _⟩ := exists_intercalate_append ['/'] cut kept
    rw [← hparts, List.intercalate_splitOn] at hrest
    have hpath : path = ['/'].intercalate kept ++ rest := hrest
    obtain ⟨hhead, _, hfront⟩ := splitLead_eq_nil_iff.1 hnil
    refine splitLead_eq_nil_iff.2 ⟨?_, ?_, ?_⟩
    · intro h
      obtain ⟨more, hmore⟩ := List.head?_eq_some_iff.1 h
      exact hhead (by rw [hpath, hmore]; rfl)
    · intro h
      have hdot : kept = [['.']] := by
        have hslash : ∀ part ∈ kept, '/' ∉ part := fun part hpart =>
          not_mem_of_mem_splitOn (hparts ▸ List.mem_append_left cut hpart)
        have hne : kept ≠ [] := by
          rintro rfl
          cases h
        rw [← List.splitOn_intercalate '/' hslash hne, h]
        rfl
      rw [hdot] at hlast
      exact absurd (hlast ['.'] rfl) (by decide)
    · intro h
      exact hfront (h.trans ⟨rest, hpath.symm⟩)
  · rw [hslash]
    rfl
  · -- the first part, between the dot and the slash, is empty
    rw [hdot]
    cases kept with
    | nil => rfl
    | cons first kept =>
      have hfirst : first = [] := by
        rcases hbody with hbody | ⟨more, hbody⟩
        · rw [hbody, List.splitOn_nil, List.cons_append, List.cons.injEq] at hparts
          exact hparts.1.symm
        · rw [hbody, List.splitOn_cons_eq_if_modifyHead, if_pos (by simp), List.cons_append,
            List.cons.injEq] at hparts
          exact hparts.1.symm
      cases kept with
      | nil =>
        rw [hfirst] at hlast
        exact absurd (hlast [] rfl) (by decide)
      | cons second kept =>
        rw [hfirst, List.intercalate_cons_cons]
        rfl

theorem filter_splitOn_intercalate {parts : List (List Char)} (h : ∀ part ∈ parts, '/' ∉ part) :
    ((['/'].intercalate parts).splitOn '/').filter (!isTrivial ·) =
      parts.filter (!isTrivial ·) := by
  cases parts with
  | nil => rfl
  | cons part parts => rw [List.splitOn_intercalate '/' h (List.cons_ne_nil part parts)]

/-- A parent has all components but the last, which is not the leading slash. -/
theorem components_of_parentOf {path up : List Char} (h : parentOf path = some up) :
    ∃ last, last ≠ ['/'] ∧ components path = components up ++ [last] := by
  obtain ⟨htrivial, hup⟩ | ⟨kept, cut, last, hparts, hcut, hkept, hup⟩ := parentOf_cases path
  · rw [hup, Option.ite_none_right_eq_some, Option.some.injEq] at h
    obtain ⟨hdot, rfl⟩ := h
    refine ⟨['.'], by decide, ?_⟩
    rw [components, hdot, htrivial]
    rfl
  · rw [hup, Option.some.injEq] at h
    subst h
    have hslash : ∀ part ∈ kept ++ cut, '/' ∉ part := by
      rw [← hparts]
      exact fun _ => not_mem_of_mem_splitOn
    have hlast : last ∈ cut := by
      have hmem : last ∈ cut.filter (!isTrivial ·) := hcut ▸ List.mem_singleton_self last
      exact List.mem_of_mem_filter hmem
    refine ⟨last, ?_, ?_⟩
    · rintro rfl
      exact hslash _ (List.mem_append_right kept hlast) List.mem_cons_self
    · rw [components, components, splitLead_of_kept hparts hkept, hparts, List.filter_append, hcut,
        filter_splitOn_intercalate fun part hpart => hslash part (List.mem_append_left cut hpart),
        List.append_assoc]

/-- Only the root and the empty path have no parent, however they are written. -/
theorem parentOf_eq_none_iff {path : List Char} :
    parentOf path = none ↔ components path = [] ∨ components path = [['/']] := by
  constructor
  · intro h
    obtain ⟨htrivial, hup⟩ | ⟨kept, cut, last, _, _, _, hup⟩ := parentOf_cases path
    · rw [components, htrivial, List.append_nil]
      rcases splitLead_cases path with hnil | hslash | ⟨hdot, _⟩
      · exact .inl (by rw [hnil]; rfl)
      · exact .inr (by rw [hslash]; rfl)
      · rw [hup, if_pos hdot] at h
        cases h
    · rw [hup] at h
      cases h
  · intro h
    cases hup : parentOf path with
    | none => rfl
    | some up =>
      obtain ⟨last, hne, hlast⟩ := components_of_parentOf hup
      rw [hlast] at h
      rcases h with h | h
      · exact absurd h (by simp)
      · rw [List.append_eq_singleton_iff] at h
        rcases h with ⟨_, h⟩ | ⟨_, h⟩
        · exact absurd (List.cons.inj h).1 hne
        · cases h

/-! ### Going up -/

/-- The path after going up from `start` the given number of times, if there are as many parents. -/
def above? (start : String) : Nat → Option String
  | 0 => some start
  | i + 1 => (above? start i).bind parent?

theorem below_of_parent? {path up : String} (h : parent? path = some up) :
    Below up.toList path.toList := by
  obtain ⟨cs, hcs, rfl⟩ := Option.map_eq_some_iff.1 h
  rw [String.toList_ofList]
  exact below_of_parentOf hcs

theorem above?_succ (start : String) : ∀ i : Nat,
    above? start (i + 1) = (parent? start).bind fun up => above? up i
  | 0 => by simp [above?]
  | i + 1 => by
      rw [above?, above?_succ start i, Option.bind_assoc]
      rfl

theorem below_of_above? {start d : String} {i : Nat} (hd : above? start i = some d) :
    ∀ {n : Nat} {e : String}, above? start (i + n + 1) = some e → Below e.toList d.toList := by
  intro n
  induction n with
  | zero =>
    intro e he
    rw [Nat.add_zero, above?, hd, Option.bind_some] at he
    exact below_of_parent? he
  | succ n ih =>
    intro e he
    rw [above?, Option.bind_eq_some_iff] at he
    obtain ⟨e', he', hup⟩ := he
    exact (below_of_parent? hup).trans (ih he')

theorem length_above? {start : String} : ∀ {i : Nat} {d : String}, above? start i = some d →
    d.toList.length + i ≤ start.toList.length
  | 0, d, h => by
      cases h
      exact Nat.le_refl _
  | i + 1, d, h => by
      rw [above?, Option.bind_eq_some_iff] at h
      obtain ⟨e, he, hup⟩ := h
      have hle := length_above? he
      have hlt := (below_of_parent? hup).length_lt
      omega

/-- There are no more parents than characters. -/
theorem above?_eq_none_of_length_lt {start : String} {i : Nat} (h : start.toList.length < i) :
    above? start i = none := by
  cases hd : above? start i with
  | none => rfl
  | some d =>
    have := length_above? hd
    omega

/-- Going up takes one component off at a time, down to the root or to nothing. -/
structure Climbs (start : String) : Prop where
  step : ∀ i d e, above? start i = some d → above? start (i + 1) = some e →
    ∃ last, components d.toList = components e.toList ++ [last]
  top : ∀ i d, above? start i = some d → (above? start (i + 1) = none ↔
    components d.toList = [] ∨ components d.toList = [['/']])
  ends : ∃ n, above? start n = none

theorem climbs (start : String) : Climbs start where
  step i d e hd he := by
    rw [above?, hd, Option.bind_some, parent?, Option.map_eq_some_iff] at he
    obtain ⟨up, hup, rfl⟩ := he
    obtain ⟨last, _, hlast⟩ := components_of_parentOf hup
    exact ⟨last, by rw [hlast, String.toList_ofList]⟩
  top i d hd := by
    rw [above?, hd, Option.bind_some, parent?, Option.map_eq_none_iff, parentOf_eq_none_iff]
  ends := ⟨start.toList.length + 1, above?_eq_none_of_length_lt (Nat.lt_succ_self _)⟩

/-- The list of a path and those above it without its guard, which always holds. -/
theorem ancestorsOf_eq (path : List Char) :
    ancestorsOf path = path :: ((parentOf path).map ancestorsOf).getD [] := by
  rw [ancestorsOf]
  cases hup : parentOf path with
  | none => rfl
  | some up =>
    have hlt := (below_of_parentOf hup).length_lt
    simp only [dif_pos hlt, Option.map_some, Option.getD_some]

theorem ancestors_eq (path : String) :
    ancestors path = path :: ((parent? path).map ancestors).getD [] := by
  rw [ancestors, ancestorsOf_eq, parent?]
  cases parentOf path.toList with
  | none => simp
  | some up => simp [ancestors]

theorem getElem?_ancestors : ∀ (i : Nat) (start : String),
    (ancestors start)[i]? = above? start i
  | 0, start => by
      rw [ancestors_eq]
      rfl
  | i + 1, start => by
      rw [ancestors_eq, above?_succ, List.getElem?_cons_succ]
      cases parent? start with
      | none => rfl
      | some up => exact getElem?_ancestors i up

theorem exists_gap (base : String) {name : String} (hname : name.toList.head? ≠ some '/') :
    ∃ gap, (∀ c ∈ gap, c = '/') ∧ (join base name).toList = base.toList ++ gap ++ name.toList := by
  rw [join, if_neg hname]
  split
  · exact ⟨[], by simp, by simp⟩
  · exact ⟨['/'], by simp, by simp⟩

/-- A name has different paths in directories above each other. -/
theorem join_ne_of_below {up path name : String} (hname : name.toList.head? ≠ some '/')
    (h : Below up.toList path.toList) : join path name ≠ join up name := by
  intro heq
  obtain ⟨rest, hpath, c, hc, hslash⟩ := h
  obtain ⟨gap, hgap, hup⟩ := exists_gap up hname
  obtain ⟨gap', _, hjoin⟩ := exists_gap path hname
  -- what the path has more than `up` would have to be the slash behind `up`
  rw [heq, hup, hpath] at hjoin
  have hsame : gap = rest ++ gap' := by
    have := List.append_cancel_right hjoin
    rw [List.append_assoc] at this
    exact List.append_cancel_left this
  exact hslash (hgap c (hsame ▸ List.mem_append_left gap' hc))

end Path

namespace Settings

/-! ### Where a search ends -/

/-- There are settings in the directory, or the data of a repository. -/
def Stops (present : String → Bool) (directory : String) : Prop :=
  present (Path.join directory fileName) = true ∨
    present (Path.join directory repositoryName) = true

instance (present : String → Bool) : DecidablePred (Stops present) :=
  fun _ => inferInstanceAs (Decidable (_ ∨ _))

/-- Going up from `start`, the directory is the first that stops a search, after `k` steps. -/
structure EndsAt (present : String → Bool) (start : String) (k : Nat) (directory : String) :
    Prop where
  reached : Path.above? start k = some directory
  stops : Stops present directory
  first : ∀ i < k, ∀ d, Path.above? start i = some d → ¬ Stops present d

variable {present : String → Bool} {start directory : String} {k : Nat}

/-- What a search has found in the directory where it ends. -/
def foundIn (present : String → Bool) (directory : String) : Option String :=
  if present (Path.join directory fileName) then some (Path.join directory fileName) else none

theorem searchIn_cons (present : String → Bool) (d : String) (above : List String) :
    Id.run (searchIn present (d :: above)) =
      if present (Path.join d fileName) then some (Path.join d fileName)
      else if present (Path.join d repositoryName) then none
      else Id.run (searchIn present above) := rfl

theorem searchIn_eq (present : String → Bool) : ∀ directories : List String,
    Id.run (searchIn present directories) =
      (directories.find? fun d => decide (Stops present d)).bind (foundIn present)
  | [] => rfl
  | d :: above => by
      rw [searchIn_cons]
      by_cases hstops : Stops present d
      · rw [List.find?_cons_of_pos (by simpa using hstops), Option.bind_some, foundIn]
        -- without settings it is the data of a repository that ends the search
        by_cases hfile : present (Path.join d fileName) = true
        · rw [if_pos hfile, if_pos hfile]
        · rw [if_neg hfile, if_neg hfile, if_pos (hstops.resolve_left hfile)]
      · obtain ⟨hfile, hrepository⟩ := not_or.1 hstops
        rw [List.find?_cons_of_neg (by simpa using hstops), if_neg hfile, if_neg hrepository,
          searchIn_eq present above]

theorem find?_ancestors_eq_some_iff :
    (Path.ancestors start).find? (fun d => decide (Stops present d)) = some directory ↔
      ∃ k, EndsAt present start k directory := by
  rw [List.find?_eq_some_iff_getElem]
  constructor
  · rintro ⟨hstops, k, hk, hget, hfirst⟩
    refine ⟨k, ?_, by simpa using hstops, fun i hi d hd => ?_⟩
    · rw [← Path.getElem?_ancestors, List.getElem?_eq_getElem hk, hget]
    · have hgoes := hfirst i hi
      rw [← Path.getElem?_ancestors, List.getElem?_eq_some_iff] at hd
      obtain ⟨_, rfl⟩ := hd
      simpa using hgoes
  · rintro ⟨k, hreached, hstops, hfirst⟩
    rw [← Path.getElem?_ancestors, List.getElem?_eq_some_iff] at hreached
    obtain ⟨hk, hget⟩ := hreached
    refine ⟨by simpa using hstops, k, hk, hget, fun i hi => ?_⟩
    have hreached : Path.above? start i = some (Path.ancestors start)[i] := by
      rw [← Path.getElem?_ancestors, List.getElem?_eq_getElem (Nat.lt_trans hi hk)]
    simpa using hfirst i hi _ hreached

theorem search_of_endsAt (h : EndsAt present start k directory) :
    Id.run (search present start) = foundIn present directory := by
  rw [search, searchIn_eq, find?_ancestors_eq_some_iff.2 ⟨k, h⟩, Option.bind_some]

theorem search_of_not_endsAt (h : ¬ ∃ k d, EndsAt present start k d) :
    Id.run (search present start) = none := by
  have hfind : (Path.ancestors start).find? (fun d => decide (Stops present d)) = none := by
    rw [← Option.not_isSome_iff_eq_none, Option.isSome_iff_exists]
    rintro ⟨d, hd⟩
    obtain ⟨k, hk⟩ := find?_ancestors_eq_some_iff.1 hd
    exact h ⟨k, d, hk⟩
  rw [search, searchIn_eq, hfind, Option.bind_none]

/-- What a search has found is in the directory where it ends. -/
theorem exists_endsAt_of_search {file : String}
    (h : Id.run (search present start) = some file) :
    ∃ k d, EndsAt present start k d ∧ file = Path.join d fileName := by
  by_cases hends : ∃ k d, EndsAt present start k d
  · obtain ⟨k, d, hd⟩ := hends
    rw [search_of_endsAt hd, foundIn, Option.ite_none_right_eq_some] at h
    exact ⟨k, d, hd, (Option.some.inj h.2).symm⟩
  · rw [search_of_not_endsAt hends] at h
    cases h

/-- Something else says the same of both names in the directory. -/
def Agrees (present present' : String → Bool) (directory : String) : Prop :=
  present' (Path.join directory fileName) = present (Path.join directory fileName) ∧
    present' (Path.join directory repositoryName) = present (Path.join directory repositoryName)

theorem Agrees.symm {present' : String → Bool} (h : Agrees present present' directory) :
    Agrees present' present directory :=
  ⟨h.1.symm, h.2.symm⟩

theorem Agrees.stops_iff {present' : String → Bool} (h : Agrees present present' directory) :
    Stops present' directory ↔ Stops present directory := by
  rw [Stops, Stops, h.1, h.2]

theorem EndsAt.le_of_stops (h : EndsAt present start k directory) {i : Nat} {d : String}
    (hd : Path.above? start i = some d) (hstops : Stops present d) : k ≤ i := by
  by_contra hlt
  exact h.first i (Nat.lt_of_not_le hlt) d hd hstops

theorem EndsAt.congr {present' : String → Bool} (h : EndsAt present start k directory)
    (hagrees : ∀ i ≤ k, ∀ d, Path.above? start i = some d → Agrees present present' d) :
    EndsAt present' start k directory where
  reached := h.reached
  stops := (hagrees k (Nat.le_refl k) directory h.reached).stops_iff.2 h.stops
  first i hi d hd hstops :=
    h.first i hi d hd ((hagrees i (Nat.le_of_lt hi) d hd).stops_iff.1 hstops)

/-- A search depends only on the directories up to the one where it ends, or on all if it does not
end before. -/
theorem search_congr {present' : String → Bool}
    (hagrees : ∀ i d, (∀ k e, EndsAt present start k e → i ≤ k) → Path.above? start i = some d →
      Agrees present present' d) :
    Id.run (search present' start) = Id.run (search present start) := by
  by_cases hends : ∃ k d, EndsAt present start k d
  · obtain ⟨k, d, hd⟩ := hends
    have hupto : ∀ i ≤ k, ∀ e, Path.above? start i = some e → Agrees present present' e := by
      intro i hi e he
      exact hagrees i e (fun k' e' h' => hi.trans (hd.le_of_stops h'.reached h'.stops)) he
    have hfile := (hupto k (Nat.le_refl k) d hd.reached).1
    rw [search_of_endsAt (hd.congr hupto), search_of_endsAt hd, foundIn, foundIn, hfile]
  · have hends' : ¬ ∃ k d, EndsAt present' start k d := by
      rintro ⟨k, d, hd⟩
      refine hends ⟨k, d, hd.congr fun i _ e he => (hagrees i e ?_ he).symm⟩
      exact fun k' e' h' => absurd ⟨k', e', h'⟩ hends
    rw [search_of_not_endsAt hends', search_of_not_endsAt hends]

/-- No settings are found above the data of a repository. -/
theorem search_ne_of_repository {d e : String} {i : Nat} (hd : Path.above? start k = some d)
    (hrepository : present (Path.join d repositoryName) = true) (hi : k < i)
    (he : Path.above? start i = some e) :
    Id.run (search present start) ≠ some (Path.join e fileName) := by
  intro h
  obtain ⟨k', d', hends, hfile⟩ := exists_endsAt_of_search h
  have hle : k' ≤ k := hends.le_of_stops hd (.inr hrepository)
  obtain ⟨n, rfl⟩ : ∃ n, i = k' + n + 1 := ⟨i - k' - 1, by omega⟩
  have hbelow := Path.below_of_above? hends.reached he
  exact Path.join_ne_of_below (by decide) hbelow hfile.symm

/-- Going up from any path comes to an end at the root or at nothing.  The settings that are found
are those of the first directory that has settings or the data of a repository, and nothing is
found if that has no settings or if there is no such directory.  So what is above it does not
matter: settings beside the data of a repository are found, and settings above it never are. -/
theorem nearest_settings_are_found (start : String) (present : String → Bool) :
    Path.Climbs start ∧
    (∀ k d, EndsAt present start k d → Id.run (search present start) =
      if present (Path.join d fileName) then some (Path.join d fileName) else none) ∧
    ((¬ ∃ k d, EndsAt present start k d) → Id.run (search present start) = none) ∧
    (∀ present' : String → Bool,
      (∀ i d, (∀ k e, EndsAt present start k e → i ≤ k) → Path.above? start i = some d →
        Agrees present present' d) →
      Id.run (search present' start) = Id.run (search present start)) ∧
    (∀ k d, EndsAt present start k d → present (Path.join d repositoryName) = true →
      present (Path.join d fileName) = true →
      Id.run (search present start) = some (Path.join d fileName)) ∧
    (∀ k d, Path.above? start k = some d → present (Path.join d repositoryName) = true →
      ∀ i e, k < i → Path.above? start i = some e →
        Id.run (search present start) ≠ some (Path.join e fileName)) := by
  refine ⟨Path.climbs start, fun k d h => search_of_endsAt h, search_of_not_endsAt,
    fun present' => search_congr, fun k d h _ hfile => ?_,
    fun k d hd hrepository i e hi he => ?_⟩
  · rw [search_of_endsAt h, foundIn, if_pos hfile]
  · exact search_ne_of_repository hd hrepository hi he

/-- Settings in the root and, with the data of a repository, one directory below it. -/
def nestedSettings (path : String) : Bool :=
  path = "/r/.git" || path = "/r/.gurutextrc.json" || path = "/.gurutextrc.json"

/-- The same without the settings of the repository. -/
def rootSettings (path : String) : Bool :=
  path = "/r/.git" || path = "/.gurutextrc.json"

/-- From a directory of the repository its settings are found; without them none are found, though
there are some in the root. -/
theorem settings_of_repository_are_found :
    EndsAt nestedSettings "/r//x/./" 1 "/r" ∧
    Id.run (search nestedSettings "/r//x/./") = some "/r/.gurutextrc.json" ∧
    EndsAt rootSettings "/r//x/./" 1 "/r" ∧ Path.above? "/r//x/./" 2 = some "/" ∧
    rootSettings "/.gurutextrc.json" = true ∧
    Id.run (search rootSettings "/r//x/./") = none := by
  have hfirst : ∀ i < 1, ∀ d, Path.above? "/r//x/./" i = some d → d = "/r//x/./" := by
    intro i hi d hd
    obtain rfl : i = 0 := by omega
    exact (Option.some.inj hd).symm
  have hnested : EndsAt nestedSettings "/r//x/./" 1 "/r" :=
    ⟨by decide +kernel, by decide +kernel, fun i hi d hd => hfirst i hi d hd ▸ by decide +kernel⟩
  have hroot : EndsAt rootSettings "/r//x/./" 1 "/r" :=
    ⟨by decide +kernel, by decide +kernel, fun i hi d hd => hfirst i hi d hd ▸ by decide +kernel⟩
  obtain ⟨_, _, _, _, hbeside, _⟩ := nearest_settings_are_found "/r//x/./" nestedSettings
  obtain ⟨_, hend, _⟩ := nearest_settings_are_found "/r//x/./" rootSettings
  exact ⟨hnested, hbeside 1 "/r" hnested (by decide +kernel) (by decide +kernel), hroot,
    by decide +kernel, by decide +kernel, (hend 1 "/r" hroot).trans (by decide +kernel)⟩

end Settings

end MessageCatalog
