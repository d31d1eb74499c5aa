import MessageCatalog.Session.Run
import MessageCatalog.Proofs.Extraction

/-! # Runs as functions of their world

In a world of the identity monad a part of a session is a function of the log it finds: `result`
is what it gives, `final` the log it leaves.  Each part of a run has a function of the world that
says what it gives, and a theorem `result_…` that it gives this.  A run first prepares its options
and the positions to extract (`prepared`), which no source has a part in, and then extracts them
(`produced`, `diagnostics`); `run_eq` says what it leaves behind. -/

namespace MessageCatalog.Session

variable {α β ε : Type}

/-- What a part of a session gives. -/
def result (x : Session Id α) (log : Log) : Except SessionError α :=
  (StateT.run (ExceptT.run x) log).1

/-- The log that a part of a session leaves. -/
def final (x : Session Id α) (log : Log) : Log := (StateT.run (ExceptT.run x) log).2

section steps

variable (log : Log)

@[simp] theorem result_pure (a : α) : result (pure a) log = .ok a := rfl

@[simp] theorem final_pure (a : α) : final (pure a) log = log := rfl

theorem result_bind (x : Session Id α) (f : α → Session Id β) :
    result (x >>= f) log = (result x log).bind fun a => result (f a) (final x log) := by
  unfold result final StateT.run ExceptT.run
  simp only [bind, ExceptT.bind, ExceptT.mk, StateT.bind, ExceptT.bindCont]
  cases x log with
  | mk r log' => cases r <;> rfl

theorem final_bind (x : Session Id α) (f : α → Session Id β) :
    final (x >>= f) log = match result x log with
      | .ok a => final (f a) (final x log)
      | .error _ => final x log := by
  unfold result final StateT.run ExceptT.run
  simp only [bind, ExceptT.bind, ExceptT.mk, StateT.bind, ExceptT.bindCont]
  cases x log with
  | mk r log' => cases r <;> rfl

@[simp] theorem result_reach (a : α) : result (reach (m := Id) a) log = .ok a := rfl

@[simp] theorem final_reach (a : α) : final (reach (m := Id) a) log = log := rfl

@[simp] theorem result_get : result (get : Session Id Log) log = .ok log := rfl

@[simp] theorem final_get : final (get : Session Id Log) log = log := rfl

@[simp] theorem result_set (log' : Log) : result (set log' : Session Id Unit) log = .ok () := rfl

@[simp] theorem final_set (log' : Log) : final (set log' : Session Id Unit) log = log' := rfl

@[simp] theorem result_attempt (wrap : ε → SessionError) (r : Except ε α) :
    result (attempt wrap r) log = r.mapError wrap := by
  cases r <;> rfl

@[simp] theorem final_attempt (wrap : ε → SessionError) (r : Except ε α) :
    final (attempt wrap r) log = log := by
  cases r <;> rfl

@[simp] theorem result_note (verbose : Bool) (text : String) :
    result (note verbose text) log = .ok () := by
  cases verbose <;> rfl

end steps

/-! ### What a part leaves as it was -/

section keeping

variable {γ : Type} {view : Log → γ}

/-- The part leaves what `view` shows of the log as it was. -/
def Keeps (view : Log → γ) (x : Session Id α) : Prop := ∀ log, view (final x log) = view log

theorem keeps_pure (a : α) : Keeps view (pure a) := fun _ => rfl

theorem keeps_reach (a : α) : Keeps view (reach (m := Id) a) := fun _ => rfl

theorem keeps_attempt (wrap : ε → SessionError) (r : Except ε α) : Keeps view (attempt wrap r) :=
  fun log => by rw [final_attempt]

theorem Keeps.bind {x : Session Id α} {f : α → Session Id β} (hx : Keeps view x)
    (hf : ∀ a, Keeps view (f a)) : Keeps view (x >>= f) := by
  intro log
  rw [final_bind]
  split
  · rw [hf, hx]
  · exact hx log

theorem keeps_queries_note (verbose : Bool) (text : String) :
    Keeps Log.queries (note verbose text) := by
  cases verbose <;> exact fun _ => rfl

end keeping

/-! ### Collecting call sites -/

/-- The text of a file of callers. -/
def callersText (w : World Id) (path : String) : Except SessionError String :=
  if path = "-" then Except.mapError .unreadableInput w.input
  else Except.mapError (.unreadableCallers path) (w.read path)

/-- The call sites of a file of callers, if there is one. -/
def givenSites (w : World Id) : Option String → Except SessionError (List CallSite)
  | some path => do
    (w.readers.callSites (← callersText w path)).mapError (.malformedCallers path)
  | none => .ok []

theorem result_readCallers (w : World Id) (path : String) (log : Log) :
    result (readCallers w path) log = givenSites w (some path) := by
  unfold readCallers givenSites callersText
  by_cases h : path = "-"
  · simp only [h, if_true, result_bind, result_reach, result_attempt]
    rfl
  · simp only [h, if_false, result_bind, result_reach, result_attempt]
    rfl

theorem keeps_readCallers {γ : Type} {view : Log → γ} (w : World Id) (path : String) :
    Keeps view (readCallers w path) := by
  unfold readCallers
  by_cases h : path = "-"
  · simp only [if_pos h]
    exact (keeps_reach _).bind fun _ => (keeps_attempt _ _).bind fun _ => keeps_attempt _ _
  · simp only [if_neg h]
    exact (keeps_reach _).bind fun _ => (keeps_attempt _ _).bind fun _ => keeps_attempt _ _

/-- What a reply of the tool says. -/
def answer (readers : Readers) (offset : String) :
    Option Reply → Except SessionError (List CallSite)
  | none => .error .noTool
  | some reply =>
    if reply.succeeded then (readers.callSites reply.output).mapError (.malformedReply offset)
    else .error (.refused (withoutFinalBreak reply.errors))

theorem result_askCallers (w : World Id) (scope : Option String) (offset : String) (log : Log) :
    result (askCallers w scope offset) log =
      answer w.readers offset (w.ask log.queries.length (queryArguments offset scope)) := by
  unfold askCallers
  simp only [result_bind, result_get, final_get, result_reach, final_reach, Except.bind]
  cases h : w.ask log.queries.length (queryArguments offset scope) with
  | none => rfl
  | some reply =>
    simp only [result_bind, result_set, Except.bind, answer]
    split
    · exact result_attempt _ _ _
    · rfl

/-- A reply is counted as a query, and nothing is noted. -/
theorem final_askCallers (w : World Id) (scope : Option String) (offset : String) (log : Log) :
    final (askCallers w scope offset) log =
      match w.ask log.queries.length (queryArguments offset scope) with
      | none => log
      | some _ => { log with queries := log.queries ++ [queryArguments offset scope] } := by
  unfold askCallers
  simp only [final_bind, result_get, final_get, result_reach, final_reach]
  cases h : w.ask log.queries.length (queryArguments offset scope) with
  | none => rfl
  | some reply =>
    simp only [final_bind, result_set, final_set]
    split
    · exact final_attempt _ _ _
    · rfl

/-- The call sites that the tool tells, when it has been asked `n` times before. -/
def answers (w : World Id) (scope : Option String) :
    Nat → List String → Except SessionError (List CallSite)
  | _, [] => .ok []
  | n, offset :: offsets => do
    let sites ← answer w.readers offset (w.ask n (queryArguments offset scope))
    return sites ++ (← answers w scope (n + 1) offsets)

theorem result_askAll (w : World Id) (verbose : Bool) (scope : Option String) :
    ∀ (offsets : List String) (log : Log), result (askAll w verbose scope offsets) log =
      answers w scope log.queries.length offsets
  | [], _ => rfl
  | offset :: offsets, log => by
      have hnote := keeps_queries_note verbose ("Running guru callers " ++ offset) log
      unfold askAll answers
      simp only [result_bind, result_note, result_askCallers, final_askCallers, result_pure, hnote,
        result_askAll w verbose scope offsets]
      -- a reply raises the number of queries by one, and without a reply no further one is made
      cases w.ask log.queries.length (queryArguments offset scope) with
      | none => rfl
      | some reply =>
        simp only [List.length_append, List.length_singleton]
        rfl

/-- The call sites of a run. -/
def collected (w : World Id) (a : Arguments) (scope : Option String) :
    Except SessionError (List CallSite) := do
  let given ← givenSites w a.callers
  let asked ← answers w scope 0 a.offsets
  return given ++ asked

theorem result_collect (w : World Id) (a : Arguments) (scope : Option String) {log : Log}
    (h : log.queries = []) : result (collect w a scope) log = collected w a scope := by
  unfold collect collected
  cases a.callers with
  | none =>
    simp only [result_bind, result_pure, final_pure, result_askAll, result_note, h, List.length_nil]
    rfl
  | some path =>
    simp only [result_bind, result_readCallers, result_pure, result_askAll, result_note,
      show (final (readCallers w path) log).queries = [] from h ▸ keeps_readCallers w path log,
      List.length_nil]
    rfl

/-- The settings of a run and where they are from. -/
def settingsOf (w : World Id) : Option String → Except SessionError (Settings × Option String)
  | some path => do
    let settings ← Except.mapError .settings (Settings.load (m := Id) w.readers w.read path)
    return (settings, some path)
  | none => Except.mapError .settings
      (Settings.loadNearest (m := Id) w.readers w.contains w.read w.directory)

theorem result_loadSettings (w : World Id) (config : Option String) (log : Log) :
    result (loadSettings w config) log = settingsOf w config := by
  unfold loadSettings settingsOf
  cases config with
  | none => exact result_attempt log _ _
  | some path =>
    simp only [result_bind, result_reach, result_attempt, result_pure]
    rfl

theorem keeps_loadSettings {γ : Type} {view : Log → γ} (w : World Id) (config : Option String) :
    Keeps view (loadSettings w config) := by
  unfold loadSettings
  cases config with
  | none =>
    exact (keeps_reach _).bind fun _ => (keeps_reach _).bind fun _ => keeps_attempt _ _
  | some path =>
    exact (keeps_reach _).bind fun _ => (keeps_attempt _ _).bind fun _ => keeps_pure _

/-! ### Selecting positions -/

/-- Take a position into a selection, unless its file is left out. -/
def choose (excludes : String → Bool) (s : Selection) (p : Position) : Selection :=
  if excludes p.file then { s with excluded := s.excluded + 1 }
  else { s with requests := s.requests.add p }

/-- The positions of call sites. -/
def positionsOf (sites : List CallSite) : Except SessionError (List Position) :=
  (sites.mapM fun site => Position.parse site.position).mapError fun e =>
    .extraction (.position e)

theorem positionsOf_cons (site : CallSite) (sites : List CallSite) :
    positionsOf (site :: sites) = do
      let p ← (Position.parse site.position).mapError fun e => .extraction (.position e)
      let ps ← positionsOf sites
      return p :: ps := by
  unfold positionsOf
  rw [List.mapM_cons]
  cases Position.parse site.position with
  | error e => rfl
  | ok p => cases sites.mapM fun site => Position.parse site.position <;> rfl

theorem positionsOf_eq_ok_iff {sites : List CallSite} {ps : List Position} :
    positionsOf sites = .ok ps ↔
      (sites.mapM fun site => Position.parse site.position) = .ok ps := by
  constructor
  · exact eq_ok_of_mapError
  · intro h
    rw [positionsOf, h]
    rfl

theorem result_select (verbose : Bool) (excludes : String → Bool) :
    ∀ (sites : List CallSite) (s : Selection) (log : Log),
      result (select verbose excludes s sites) log =
        (positionsOf sites).map fun ps => ps.foldl (choose excludes) s
  | [], _, _ => rfl
  | site :: sites, s, log => by
      rw [positionsOf_cons]
      unfold select
      simp only [result_bind, result_attempt, final_attempt]
      cases Position.parse site.position with
      | error e => rfl
      | ok p =>
        have hrest : ∀ log, result (select verbose excludes (choose excludes s p) sites) log =
            (positionsOf sites).map fun ps => (p :: ps).foldl (choose excludes) s :=
          result_select verbose excludes sites (choose excludes s p)
        have htail : ((positionsOf sites).bind fun ps => .ok (p :: ps)).map
              (fun ps => ps.foldl (choose excludes) s) =
            (positionsOf sites).map fun ps => (p :: ps).foldl (choose excludes) s := by
          cases positionsOf sites <;> rfl
        refine Eq.trans ?_ htail.symm
        by_cases h : excludes p.file = true
        · simp only [choose, if_pos h] at hrest
          simp only [Except.mapError, Except.bind, if_pos h, result_bind, result_note, hrest]
        · simp only [choose, if_neg h] at hrest
          simp only [Except.mapError, Except.bind, if_neg h, hrest]

/-- Positions are counted if their file is left out, and requested otherwise. -/
theorem foldl_choose (excludes : String → Bool) : ∀ (ps : List Position) (s : Selection),
    ps.foldl (choose excludes) s =
      ⟨(ps.filter fun p => !excludes p.file).foldl Requests.add s.requests,
        s.excluded + (ps.filter fun p => excludes p.file).length⟩
  | [], s => rfl
  | p :: ps, s => by
      rw [List.foldl_cons, foldl_choose excludes ps]
      unfold choose
      cases h : excludes p.file with
      | true => simp [h, Nat.add_assoc, Nat.add_comm 1]
      | false => simp [h]

/-- The positions that are requested, and how many are left out. -/
def chosen (excludes : String → Bool) (ps : List Position) : Selection :=
  ⟨.ofList (ps.filter fun p => !excludes p.file), (ps.filter fun p => excludes p.file).length⟩

theorem result_select_empty (verbose : Bool) (excludes : String → Bool) (sites : List CallSite)
    (log : Log) : result (select verbose excludes {} sites) log =
      (positionsOf sites).map (chosen excludes) := by
  have hfold : (fun ps => ps.foldl (choose excludes) {}) = chosen excludes := by
    funext ps
    rw [foldl_choose]
    exact congrArg (Selection.mk _) (Nat.zero_add _)
  rw [result_select, hfold]

section excluded

variable {excludes : String → Bool} {sites : List CallSite} {ps : List Position}

/-- The call site is in one of the files that `excludes` picks. -/
def isIn (excludes : String → Bool) (site : CallSite) : Bool :=
  match Position.parse site.position with
  | .ok p => excludes p.file
  | .error _ => false

theorem isIn_of_parse {site : CallSite} {p : Position}
    (h : Position.parse site.position = .ok p) : isIn excludes site = excludes p.file := by
  unfold isIn
  rw [h]

/-- The positions in files that are not excluded. -/
def kept (excludes : String → Bool) (ps : List Position) : List Position :=
  ps.filter fun p => !excludes p.file

theorem length_excluded (h : positionsOf sites = .ok ps) :
    (ps.filter fun p => excludes p.file).length = (sites.filter (isIn excludes)).length := by
  rw [positionsOf_eq_ok_iff] at h
  exact length_of_mapM (mapM_filter (fun site p hp => isIn_of_parse hp) h)

end excluded

/-! ### Whole runs -/

/-- A run has these options and collects these call sites. -/
structure Collects (w : World Id) (a : Arguments) (options : Options) (sites : List CallSite) :
    Prop where
  merged : ∃ settings path, result (loadSettings w a.config) {} = .ok (settings, path) ∧
    Options.merge w.readers a settings = .ok options
  gathered : result (collect w a options.scope) {} = .ok sites

section runs

variable (w : World Id) (parser : Parser) (width : Char → Nat) (a : Arguments)

/-- What a run does before it reads sources. -/
def prepare : Session Id (Options × Selection) := do
  let (settings, path) ← loadSettings w a.config
  note a.verbose (settingsNote path)
  let options ← attempt .settings (Options.merge w.readers a settings)
  let sites ← collect w a options.scope
  let selection ← select a.verbose options.excludes {} sites
  return (options, selection)

/-- What a run does with what it has prepared. -/
def conclude (prepared : Options × Selection) : Session Id Product := do
  let product ← extract w parser width prepared.1.associator prepared.1.sort prepared.2
  if a.verbose then write product.summary.render
  return product

theorem body_eq : body w parser width a = prepare w a >>= conclude w parser width a := by
  unfold body prepare conclude
  simp only [bind_assoc, pure_bind]

/-- The options and the positions of a run. -/
def prepared : Except SessionError (Options × Selection) := do
  let (settings, _) ← settingsOf w a.config
  let options ← (Options.merge w.readers a settings).mapError .settings
  let sites ← collected w a options.scope
  let ps ← positionsOf sites
  return (options, chosen options.excludes ps)

theorem result_prepare : result (prepare w a) {} = prepared w a := by
  unfold prepare prepared
  simp only [result_bind, result_loadSettings]
  cases settingsOf w a.config with
  | error _ => rfl
  | ok r =>
    obtain ⟨settings, path⟩ := r
    have hlog := (keeps_queries_note a.verbose (settingsNote path)
      (final (loadSettings w a.config) {})).trans (keeps_loadSettings w a.config {})
    simp only [Except.bind, result_note, result_attempt, final_attempt, bind]
    cases Options.merge w.readers a settings with
    | error _ => rfl
    | ok options =>
      simp only [Except.mapError, result_collect w a options.scope hlog, result_select_empty,
        result_pure]
      cases collected w a options.scope with
      | error _ => rfl
      | ok sites =>
        dsimp only
        cases positionsOf sites <;> rfl

variable {w a} in
/-- What a run has prepared when it has collected call sites whose positions can be read. -/
theorem collects_of_prepared {options : Options} {s : Selection}
    (h : prepared w a = .ok (options, s)) :
    ∃ sites ps, Collects w a options sites ∧ positionsOf sites = .ok ps ∧
      s = chosen options.excludes ps := by
  unfold prepared at h
  obtain ⟨⟨settings, path⟩, hsettings, h⟩ := bind_eq_ok h
  obtain ⟨options', hmerge, h⟩ := bind_eq_ok h
  obtain ⟨sites, hsites, h⟩ := bind_eq_ok h
  obtain ⟨ps, hps, h⟩ := bind_eq_ok h
  cases h
  refine ⟨sites, ps, ⟨⟨settings, path, ?_, eq_ok_of_mapError hmerge⟩, ?_⟩, hps, rfl⟩
  · rw [result_loadSettings, hsettings]
  · rw [result_collect w a options.scope rfl, hsites]

/-- The notes of a run up to its first source. -/
def progress : String := (final (prepare w a) {}).notes

/-- The extraction of a selection by a run. -/
def extracted (associator : Associator) (s : Selection) : Except Aborted (Catalog × Reporter) :=
  Extraction.extract w.race parser (readFiles w s.requests.paths) associator s.requests
    (Reporter.new .unlimited (.new false) width)

/-- What an extraction reported. -/
def reportOf : Except Aborted (Catalog × Reporter) → String
  | .error ⟨_, reporter⟩ => reporter.stream.text
  | .ok (_, reporter) => reporter.stream.text

/-- What a run makes of an extraction. -/
def productOf (sort : Bool) (s : Selection) :
    Except Aborted (Catalog × Reporter) → Except SessionError Product
  | .error ⟨failure, _⟩ => .error (.extraction failure)
  | .ok (catalog, reporter) =>
    .ok ⟨catalog.template sort, .ofCatalog s.requests s.excluded catalog reporter.reported⟩

theorem result_extract (associator : Associator) (sort : Bool) (s : Selection) (log : Log) :
    result (extract w parser width associator sort s) log =
      productOf sort s (extracted w parser width associator s) := by
  unfold extract extracted
  simp only [result_bind, result_reach, Except.bind]
  cases Extraction.extract w.race parser (readFiles w s.requests.paths) associator s.requests
      (Reporter.new .unlimited (.new false) width) <;> rfl

theorem notes_extract (associator : Associator) (sort : Bool) (s : Selection) (log : Log) :
    (final (extract w parser width associator sort s) log).notes =
      log.notes ++ reportOf (extracted w parser width associator s) := by
  unfold extract extracted
  simp only [final_bind, result_reach, final_reach]
  cases Extraction.extract w.race parser (readFiles w s.requests.paths) associator s.requests
      (Reporter.new .unlimited (.new false) width) <;> rfl

/-- What a run writes in the end, if it is verbose. -/
def closing (verbose : Bool) : Except SessionError Product → String
  | .ok product => if verbose then product.summary.render else ""
  | .error _ => ""

theorem result_conclude (options : Options) (s : Selection) (log : Log) :
    result (conclude w parser width a (options, s)) log =
      productOf options.sort s (extracted w parser width options.associator s) := by
  unfold conclude
  rw [result_bind, result_extract]
  cases productOf options.sort s (extracted w parser width options.associator s) with
  | error _ => rfl
  | ok product => cases a.verbose <;> rfl

theorem notes_conclude (options : Options) (s : Selection) (log : Log) :
    (final (conclude w parser width a (options, s)) log).notes =
      log.notes ++ reportOf (extracted w parser width options.associator s) ++
        closing a.verbose
          (productOf options.sort s (extracted w parser width options.associator s)) := by
  have hnotes := notes_extract w parser width options.associator options.sort s log
  unfold conclude
  rw [final_bind, result_extract, ← hnotes]
  cases productOf options.sort s (extracted w parser width options.associator s) with
  | error _ => exact String.append_empty.symm
  | ok product =>
    cases a.verbose with
    | false => exact String.append_empty.symm
    | true => rfl

/-- What a run produces. -/
def produced : Except SessionError Product := do
  let (options, s) ← prepared w a
  productOf options.sort s (extracted w parser width options.associator s)

/-- The diagnostics of a run; there are none if it fails before it reads sources. -/
def diagnostics : String := match prepared w a with
  | .ok (options, s) => reportOf (extracted w parser width options.associator s)
  | .error _ => ""

theorem result_body : result (body w parser width a) {} = produced w parser width a := by
  rw [body_eq, result_bind, result_prepare]
  unfold produced
  cases prepared w a with
  | error _ => rfl
  | ok r => exact result_conclude w parser width a r.1 r.2 _

theorem notes_body : (final (body w parser width a) {}).notes =
    progress w a ++ diagnostics w parser width a ++
      closing a.verbose (produced w parser width a) := by
  rw [body_eq, final_bind, result_prepare]
  unfold diagnostics produced
  cases prepared w a with
  | error _ => exact (String.append_empty.trans String.append_empty).symm
  | ok r => exact notes_conclude w parser width a r.1 r.2 _

/-- The template of a product, and nothing if there is none. -/
def printed : Except SessionError Product → String
  | .ok product => product.template
  | .error _ => ""

/-- Why there is no product. -/
def cause? : Except SessionError Product → Option SessionError
  | .ok _ => none
  | .error e => some e

/-- A run with something to extract prints the template of its product.  It notes how far it gets,
and then writes its diagnostics and, if it is verbose, its summary. -/
theorem run_eq (h : a.hasInput = true) : Id.run (run w parser width a) =
    { stdout := printed (produced w parser width a)
      stderr := progress w a ++ diagnostics w parser width a ++
        closing a.verbose (produced w parser width a)
      queries := (final (body w parser width a) {}).queries
      error := cause? (produced w parser width a) } := by
  rw [← notes_body, ← result_body]
  unfold run result final
  simp only [h]
  cases StateT.run (ExceptT.run (body w parser width a)) {} with
  | mk r log => cases r <;> rfl

/-- Without anything to extract a run prints the help. -/
theorem run_of_no_input (h : a.hasInput = false) :
    Id.run (run w parser width a) = ⟨helpText, "", [], none⟩ := by
  unfold run
  simp only [h]
  rfl

end runs

end MessageCatalog.Session
