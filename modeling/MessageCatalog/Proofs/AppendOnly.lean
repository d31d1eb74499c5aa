import MessageCatalog.Proofs.Lines

/-! # The cache only grows

A run is a list of operations on a cache, among them changes of the files from outside.  What is
known of a path after a run is told by the history of the run alone: `known` is the text of the
first operation that offered one, by putting it in or by reading it.

One operation adds to the cache what it offers where nothing was cached before, and nothing else
(`get?_perform`).  By induction the cache after a run holds what was cached at its start and, for
the other paths, what is known from the run (`get?_after`).  So the lines of a path that is known
never change again, whatever is put in and whatever happens to the files. -/

namespace MessageCatalog.SourceCache

/-! ### Runs -/

/-- A cache, and the files as they are now. -/
structure Scene where
  cache : SourceCache
  disk : Disk

/-- What is asked of a cache or done to it, or a change of the files. -/
inductive Operation where
  | insert (path source : String)
  | contains (path : String)
  | line (path : String) (n : Nat)
  | change (disk : Disk)

namespace Operation

/-- The text that an operation offers for a path: it is put in, or can be read. -/
def offer? (disk : Disk) (path : String) : Operation → Option String
  | insert p source => if path = p then some source else none
  | line p _ => if path = p then (disk p).toOption else none
  | contains _ | change _ => none

/-- The path that an operation is about. -/
def path? : Operation → Option String
  | insert path _ | contains path | line path _ => some path
  | change _ => none

end Operation

/-- The answer to an operation. -/
inductive Answer where
  | done
  | truth (b : Bool)
  | line (result : Except Failure (Option String))

namespace Scene

/-- The scene before a run: nothing is cached. -/
def start (lenient : Bool) (disk : Disk) : Scene := ⟨SourceCache.new lenient, disk⟩

/-- Perform an operation: its answer, and the scene after it. -/
def perform (w : Scene) : Operation → Answer × Scene
  | .insert path source => (.done, { w with cache := w.cache.insert path source })
  | .contains path => (.truth (w.cache.contains path), w)
  | .line path n => match w.cache.line w.disk path n with
    | .ok (line, cache) => (.line (.ok line), { w with cache := cache })
    | .error failure => (.line (.error failure), w)
  | .change disk => (.done, { w with disk := disk })

/-- The scene after operations. -/
def after (w : Scene) (ops : List Operation) : Scene :=
  ops.foldl (fun w op => (w.perform op).2) w

/-- The operations of a run, each with the files as they were then. -/
def history (w : Scene) : List Operation → List (Disk × Operation)
  | [] => []
  | op :: ops => (w.disk, op) :: history (w.perform op).2 ops

end Scene

/-- The text by which a path became known: the first that an operation offered for it. -/
def known (events : List (Disk × Operation)) (path : String) : Option String :=
  events.findSome? fun e => e.2.offer? e.1 path

/-! ### One operation -/

section step

variable {c : SourceCache} {path : String}

theorem contains_eq_isSome (c : SourceCache) (path : String) :
    c.contains path = (c.files.get? path).isSome := rfl

theorem get?_insert (c : SourceCache) (p source path : String) :
    (c.insert p source).files.get? path =
      (c.files.get? path).or (if path = p then some (splitLines source) else none) := by
  rw [insert, SortedMap.get?_insertNew]
  by_cases h : path = p
  · subst h
    cases c.files.get? path <;> simp
  · simp [h]

theorem get?_insert_self (hnew : c.files.get? path = none) (source : String) :
    (c.insert path source).files.get? path = some (splitLines source) := by
  rw [get?_insert, hnew, Option.none_or, if_pos rfl]

theorem line_of_read {source : String} {disk : Disk} (hnew : c.files.get? path = none)
    (hread : disk path = .ok source) (n : Nat) :
    c.line disk path n = .ok (lineAt? (splitLines source) n, c.insert path source) := by
  have hinsert := get?_insert_self hnew source
  rw [line, contains_eq_isSome, hnew, hread]
  simp only [Option.isSome_none, Bool.false_eq_true, if_false, cachedLine_eq hinsert]

theorem line_of_fault {fault : ReadFault} {disk : Disk} (hnew : c.files.get? path = none)
    (hread : disk path = .error fault) (n : Nat) :
    c.line disk path n = if c.lenient then .ok (none, c) else .error (.read path fault) := by
  rw [line, contains_eq_isSome, hnew, hread]
  rfl

end step

namespace Scene

variable {w : Scene} {path : String}

theorem perform_line_of_cached {lines : List String} (h : w.cache.files.get? path = some lines)
    (n : Nat) : w.perform (.line path n) = (.line (.ok (lineAt? lines n)), w) := by
  simp only [perform, line_of_cached h]

theorem perform_line_of_read {source : String} (hnew : w.cache.files.get? path = none)
    (hread : w.disk path = .ok source) (n : Nat) :
    w.perform (.line path n) =
      (.line (.ok (lineAt? (splitLines source) n)), (w.perform (.insert path source)).2) := by
  simp only [perform, line_of_read hnew hread]

theorem perform_line_of_fault {fault : ReadFault} (hnew : w.cache.files.get? path = none)
    (hread : w.disk path = .error fault) (n : Nat) :
    w.perform (.line path n) =
      (.line (if w.cache.lenient then .ok none else .error (.read path fault)), w) := by
  simp only [perform, line_of_fault hnew hread]
  cases w.cache.lenient <;> rfl

/-- An operation adds what it offers where nothing is cached, and nothing else. -/
theorem get?_perform (w : Scene) (op : Operation) (path : String) :
    (w.perform op).2.cache.files.get? path =
      (w.cache.files.get? path).or ((op.offer? w.disk path).map splitLines) := by
  cases op with
  | insert p source =>
    show (w.cache.insert p source).files.get? path = _
    rw [get?_insert, Operation.offer?]
    split <;> rfl
  | contains p | change disk => exact (Option.or_none).symm
  | line p n =>
    rw [Operation.offer?]
    cases hcached : w.cache.files.get? p with
    | some lines =>
      -- what can be read does not matter, since it is not read
      rw [perform_line_of_cached hcached]
      by_cases h : path = p
      · rw [h, hcached, Option.some_or]
      · rw [if_neg h, Option.map_none, Option.or_none]
    | none => cases hread : w.disk p with
      | ok source =>
        rw [perform_line_of_read hcached hread]
        show (w.cache.insert p source).files.get? path = _
        rw [get?_insert]
        split <;> rfl
      | error fault =>
        rw [perform_line_of_fault hcached hread]
        split <;> simp [Except.toOption]

theorem lenient_perform (w : Scene) (op : Operation) :
    (w.perform op).2.cache.lenient = w.cache.lenient := by
  cases op with
  | insert | contains | change => rfl
  | line p n => cases hcached : w.cache.files.get? p with
    | some lines => rw [perform_line_of_cached hcached]
    | none => cases hread : w.disk p with
      | ok source =>
        rw [perform_line_of_read hcached hread]
        rfl
      | error fault => rw [perform_line_of_fault hcached hread]

end Scene

/-! ### Whole runs -/

theorem known_cons (e : Disk × Operation) (events : List (Disk × Operation)) (path : String) :
    known (e :: events) path = (e.2.offer? e.1 path).or (known events path) := by
  rw [known, List.findSome?_cons]
  cases e.2.offer? e.1 path <;> rfl

namespace Scene

/-- After a run, a path holds what was cached for it before, or else what is known from the run. -/
theorem get?_after (path : String) : ∀ (ops : List Operation) (w : Scene),
    (w.after ops).cache.files.get? path =
      (w.cache.files.get? path).or ((known (w.history ops) path).map splitLines)
  | [], w => (Option.or_none).symm
  | op :: ops, w => by
      have ih := get?_after path ops (w.perform op).2
      rw [get?_perform, Option.or_assoc] at ih
      rw [history, known_cons, Option.map_or]
      exact ih

theorem get?_after_of_cached {w : Scene} {path : String} {lines : List String}
    (h : w.cache.files.get? path = some lines) (ops : List Operation) :
    (w.after ops).cache.files.get? path = some lines := by
  rw [get?_after, h, Option.some_or]

theorem get?_after_start (lenient : Bool) (disk : Disk) (ops : List Operation) (path : String) :
    ((start lenient disk).after ops).cache.files.get? path =
      (known ((start lenient disk).history ops) path).map splitLines :=
  get?_after path ops (start lenient disk)

theorem lenient_after : ∀ (ops : List Operation) (w : Scene),
    (w.after ops).cache.lenient = w.cache.lenient
  | [], _ => rfl
  | op :: ops, w => (lenient_after ops (w.perform op).2).trans (w.lenient_perform op)

end Scene

/-! ### What a cache shows -/

/-- What is shown of line `n` of a source: the line, or nothing where the source has no such
line. -/
structure ShownAs (source : String) (n : Nat) (line : Option String) : Prop where
  some_iff : ∀ l, line = some l ↔ IsLine source n l
  none_iff : line = none ↔ n = 0 ∨ source.toList.count '\n' + 1 < n

theorem shownAs_lineAt? (source : String) (n : Nat) :
    ShownAs source n (lineAt? (splitLines source) n) :=
  ⟨fun _ => lineAt?_splitLines_eq_some_iff, lineAt?_splitLines_eq_none_iff⟩

namespace Scene

/-- The path is cached, and its lines are those of the source. -/
def Shows (w : Scene) (path source : String) : Prop :=
  w.cache.contains path = true ∧
    ∀ n, ∃ line, w.perform (.line path n) = (.line (.ok line), w) ∧ ShownAs source n line

theorem shows_of_get? {w : Scene} {path source : String}
    (h : w.cache.files.get? path = some (splitLines source)) : w.Shows path source := by
  refine ⟨?_, fun n => ⟨_, perform_line_of_cached h n, shownAs_lineAt? source n⟩⟩
  rw [contains_eq_isSome, h]
  rfl

theorem shows_insert {w : Scene} {path : String} (hnew : w.cache.files.get? path = none)
    (source : String) : (w.perform (.insert path source)).2.Shows path source := by
  apply shows_of_get?
  rw [get?_perform, hnew, Operation.offer?, if_pos rfl]
  rfl

theorem exists_line_of_read {w : Scene} {path source : String}
    (hnew : w.cache.files.get? path = none) (hread : w.disk path = .ok source) (n : Nat) :
    ∃ line v, w.perform (.line path n) = (.line (.ok line), v) ∧
      ShownAs source n line ∧ v.Shows path source :=
  ⟨_, _, perform_line_of_read hnew hread n, shownAs_lineAt? source n, shows_insert hnew source⟩

theorem after_fault {w : Scene} {path : String} {fault : ReadFault} {n : Nat} {disk : Disk}
    (hnew : w.cache.files.get? path = none) (hread : w.disk path = .error fault) :
    w.after [.line path n, .change disk] = { w with disk := disk } := by
  rw [after, List.foldl_cons, perform_line_of_fault hnew hread]
  rfl

/-- An operation changes nothing for a path that it is not about. -/
theorem get?_perform_of_ne {op : Operation} {path : String} (h : op.path? ≠ some path)
    (w : Scene) : (w.perform op).2.cache.files.get? path = w.cache.files.get? path := by
  have hnone : op.offer? w.disk path = none := by
    cases op with
    | contains | change => rfl
    | insert p source => exact if_neg fun hp => h (congrArg some hp.symm)
    | line p n => exact if_neg fun hp => h (congrArg some hp.symm)
  rw [get?_perform, hnone, Option.map_none, Option.or_none]

end Scene

/-- What holds at a moment of a run that has gone through `events`. -/
structure Consistent (lenient : Bool) (events : List (Disk × Operation)) (w : Scene) : Prop where
  /-- Exactly the known paths are cached. -/
  contains_iff : ∀ path, w.cache.contains path = true ↔ ∃ source, known events path = some source
  /-- A known path shows the text by which it became known, whatever is done later. -/
  keeps : ∀ path source, known events path = some source →
    ∀ later, (w.after later).Shows path source
  /-- An unknown path becomes known by a text that is put in. -/
  inserts : ∀ path source, known events path = none →
    (w.perform (.insert path source)).2.Shows path source
  /-- An unknown path becomes known by asking for a line, if it can be read. -/
  reads : ∀ path source n, known events path = none → w.disk path = .ok source →
    ∃ line v, w.perform (.line path n) = (.line (.ok line), v) ∧
      ShownAs source n line ∧ v.Shows path source
  /-- If it cannot be read, there is a failure or no line, and everything stays as it is. -/
  fails : ∀ path fault n, known events path = none → w.disk path = .error fault →
    w.perform (.line path n) =
      (.line (if lenient then .ok none else .error (.read path fault)), w)
  /-- A later call reads again: it shows the text that can be read then. -/
  retries : ∀ path fault n, known events path = none → w.disk path = .error fault →
    ∀ disk source m, disk path = .ok source →
      ∃ line v, (w.after [.line path n, .change disk]).perform (.line path m) =
        (.line (.ok line), v) ∧ ShownAs source m line ∧ v.Shows path source
  /-- What is cached for other paths does not change. -/
  apart : ∀ op path, op.path? ≠ some path →
    (w.perform op).2.cache.files.get? path = w.cache.files.get? path

/-- The cache is append-only and consistent at every moment of every run. -/
theorem cache_is_append_only (lenient : Bool) (disk : Disk) (ops : List Operation) :
    Consistent lenient ((Scene.start lenient disk).history ops)
      ((Scene.start lenient disk).after ops) := by
  have hget := Scene.get?_after_start lenient disk ops
  have hlenient := Scene.lenient_after ops (Scene.start lenient disk)
  generalize (Scene.start lenient disk).history ops = events at hget ⊢
  generalize (Scene.start lenient disk).after ops = w at hget hlenient ⊢
  have hnew : ∀ {path}, known events path = none → w.cache.files.get? path = none := by
    intro path h
    rw [hget, h]
    rfl
  exact
    { contains_iff := fun path => by
        rw [contains_eq_isSome, hget, Option.isSome_map, Option.isSome_iff_exists]
      keeps := fun path source h later => by
        apply Scene.shows_of_get?
        apply Scene.get?_after_of_cached
        rw [hget, h]
        rfl
      inserts := fun path source h => Scene.shows_insert (hnew h) source
      reads := fun path source n h hread => Scene.exists_line_of_read (hnew h) hread n
      fails := fun path fault n h hread => by
        rw [Scene.perform_line_of_fault (hnew h) hread, hlenient]
        rfl
      retries := fun path fault n h hread disk source m hdisk => by
        rw [Scene.after_fault (hnew h) hread]
        exact Scene.exists_line_of_read (w := { w with disk := disk }) (hnew h) hdisk m
      apart := fun op path h => Scene.get?_perform_of_ne h w }

/-- No file can be read. -/
def noFiles : Disk := fun _ => .error .missing

/-- A file is asked for in vain, written, asked for a line that it does not have, deleted, and
another text is put in for it. -/
def rewritten : List Operation :=
  [.line "a.go" 1, .change fun _ => .ok "x\r\ny", .line "a.go" 9, .change noFiles,
    .insert "a.go" "z"]

/-- The first text that was read stays, also when it was read for a line that it does not have. -/
theorem first_text_read_stays :
    ((Scene.start false noFiles).perform (.line "a.go" 1)).1 =
      .line (.error (.read "a.go" .missing)) ∧
    known ((Scene.start false noFiles).history rewritten) "a.go" = some "x\r\ny" ∧
    ((Scene.start false noFiles).after rewritten).Shows "a.go" "x\r\ny" ∧
    (((Scene.start false noFiles).after rewritten).perform (.line "a.go" 1)).1 =
      .line (.ok (some "x")) := by
  have hstart := cache_is_append_only false noFiles []
  have hrun := cache_is_append_only false noFiles rewritten
  have hknown : known ((Scene.start false noFiles).history rewritten) "a.go" = some "x\r\ny" := rfl
  exact ⟨congrArg Prod.fst (hstart.fails "a.go" .missing 1 rfl rfl), hknown,
    hrun.keeps "a.go" _ hknown [], rfl⟩

end MessageCatalog.SourceCache
