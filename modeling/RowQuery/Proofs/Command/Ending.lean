import RowQuery.Command.Run
import RowQuery.Proofs.Command.Action
import RowQuery.Proofs.Page.Preparing

/-!
# How runs fail

The options of the program that are about what is shown reach every command through its context. So
a command that is run twice, in contexts that differ in nothing else, reads and writes the same
files, and fails for the same reason or does not fail either time.

A command that fails has written nothing, apart from a query, which may have remarked that its table
has been loaded. A run that fails therefore shows the report of its failure, once, and in front of
it at most that remark.

* `Command.coupled_run`: a command in two contexts;
* `Command.silent_run`: what a command has written that fails;
* `Invocation.exists_tells`: two invocations of one command fail alike;
* `Invocation.exit_run_eq_crash_iff`: a run crashes exactly if the rows of a query cannot be sorted.
-/

namespace RowQuery

/-! ## What runs show -/

/-- The remarks of a run that fails: none, or that a table has been loaded, if remarks are asked
    for. -/
inductive Remarked (verbose : Bool) : String → Prop
  | nothing : Remarked verbose ""
  | loaded (t : Table) (hverbose : verbose = true) : Remarked verbose (loadedRemark t ++ "\n")

/-- What a run shows that succeeds, or that fails so. -/
inductive Outcome.Tells (options : Options) : Option Failure → Outcome → Prop
  | success (output remarks : String) : Tells options none ⟨0, output, remarks⟩
  | error {remarks : String} (e : CommandError) (h : Remarked options.verbose remarks) :
      Tells options (some (.error e)) ⟨e.exit, "", remarks ++ e.report options.json⟩
  | crash {remarks : String} (message : String) (h : Remarked options.verbose remarks) :
      Tells options (some (.crash message)) ⟨101, "", remarks ++ message ++ "\n"⟩

/-- An error has an exit status that is neither that of success nor that of a crash. -/
theorem CommandError.exit_bounds (e : CommandError) : 0 < e.exit ∧ e.exit ≤ 5 := by
  rcases e with _ | (_ | _ | _) | _ | _ | _ | _ <;> simp [exit]

theorem Failure.exit_pos (f : Failure) : 0 < f.exit := by
  cases f with
  | error e => exact e.exit_bounds.1
  | crash => exact Nat.zero_lt_succ 100

/-- The report of an error begins with a word or with a brace. -/
theorem CommandError.head?_report (e : CommandError) (json : Bool) :
    (e.report json).toList.head? = some (if json then '\x7b' else 'E') := by
  cases json with
  | false => simp [report]
  | true =>
    rw [report, toJson, Json.pretty, Json.prettyAt]
    simp

namespace Outcome.Tells

variable {options options' : Options} {failure? : Option Failure} {o o' : Outcome}

/-- The exit status tells whether a run fails. -/
theorem exit_eq_zero (h : o.Tells options failure?) : o.exit = 0 ↔ failure? = none := by
  cases h with
  | success => exact ⟨fun _ => rfl, fun _ => rfl⟩
  | error e => exact ⟨fun he => absurd he (Nat.ne_of_gt e.exit_bounds.1), nofun⟩
  | crash => exact ⟨nofun, nofun⟩

/-- A run that fails writes nothing to standard output. -/
theorem output_eq (h : o.Tells options failure?) (hfails : failure? ≠ none) : o.output = "" := by
  cases h with
  | success => exact absurd rfl hfails
  | error => rfl
  | crash => rfl

/-- The exit status is that of the failure, whatever the options. -/
theorem exit_eq (h : o.Tells options failure?) (h' : o'.Tells options' failure?) :
    o'.exit = o.exit := by
  cases h <;> cases h' <;> rfl

end Outcome.Tells

namespace Action

variable (files : FileTree) (x : Action (StateM FileTree) Unit)

theorem perform_outcome (json : Bool) : files.perform (x.outcome json) =
    match files.act {} x with
    | ((.ok (), s), after) => (⟨0, s.output, s.errors⟩, after)
    | ((.error f, s), after) => (⟨f.exit, s.output, s.errors ++ f.report json⟩, after) := by
  rw [outcome, FileTree.perform_bind, FileTree.act]
  rcases files.perform (x.run.run {}) with ⟨⟨_ | _, _⟩, _⟩ <;> rfl

theorem files_outcome (json : Bool) :
    (files.perform (x.outcome json)).2 = (files.act {} x).2 := by
  rw [perform_outcome]
  rcases files.act {} x with ⟨⟨_ | _, _⟩, _⟩ <;> rfl

/-- The failure of an action with which a run begins, if it fails. -/
def failure? : Option Failure :=
  match (files.act {} x).1.1 with
  | .ok _ => none
  | .error f => some f

variable {files x}

theorem failure?_eq_of_sameFault {y : Action (StateM FileTree) Unit}
    (h : SameFault (files.act {} x).1.1 (files.act {} y).1.1) :
    x.failure? files = y.failure? files := by
  rw [failure?, failure?]
  generalize (files.act {} x).1.1 = r at h ⊢
  generalize (files.act {} y).1.1 = r' at h ⊢
  cases h <;> rfl

/-- A run tells the failure of its action. -/
theorem tells_outcome {options : Options}
    (h : ∀ f, (files.act {} x).1.1 = .error f → (files.act {} x).1.2.output = "" ∧
      Remarked options.verbose (files.act {} x).1.2.errors) :
    (files.perform (x.outcome options.json)).1.Tells options (x.failure? files) := by
  rw [perform_outcome, failure?]
  generalize files.act {} x = r at h ⊢
  obtain ⟨⟨f | _, s⟩, after⟩ := r
  · obtain ⟨houtput, hremarked⟩ := h f rfl
    obtain ⟨output, errors⟩ := s
    obtain rfl : output = "" := houtput
    cases f with
    | error e => exact .error e hremarked
    | crash message =>
      show Outcome.Tells options (some (.crash message)) ⟨101, "", errors ++ (message ++ "\n")⟩
      rw [← String.append_assoc]
      exact .crash message hremarked
  · exact .success _ _

theorem exit_outcome_eq_crash_iff {json : Bool} :
    (files.perform (x.outcome json)).1.exit = 101 ↔
      ∃ message, (files.act {} x).1.1 = .error (.crash message) := by
  rw [perform_outcome]
  rcases files.act {} x with ⟨⟨(e | message) | _, s⟩, after⟩
  · refine ⟨fun he => ?_, nofun⟩
    have hle : e.exit ≤ 5 := e.exit_bounds.2
    have hcrash : e.exit = 101 := he
    omega
  · exact ⟨fun _ => ⟨message, rfl⟩, fun _ => rfl⟩
  · exact ⟨nofun, nofun⟩

end Action

/-! ## Commands -/

/-- Contexts that differ at most in what is shown. -/
structure Context.Alike (ctx ctx' : Context) : Prop where
  mode : ctx.mode = ctx'.mode
  page : ctx.page = ctx'.page

variable {ctx ctx' : Context}

theorem Speaks.showInitialized {path : String} {created : Bool} :
    Speaks (showInitialized ctx path created) :=
  .display

theorem Speaks.showCompiled {p? : Option Predicate} {fragment? : Option SqlFragment} :
    Speaks (showCompiled ctx p? fragment?) := by
  cases p? with
  | none => exact .display
  | some p => exact .seq .remark .display

theorem Speaks.showPage {links : Bool} {columns : List String} {p : Page Row} :
    Speaks (showPage ctx links columns p) := by
  rw [RowQuery.showPage]
  split <;> exact .display

theorem coupled_runTokens (h : ctx.Alike ctx') (filter : String) :
    Coupled (runTokens ctx filter) (runTokens ctx' filter) := by
  rw [runTokens, runTokens, h.mode]
  exact .ofExcept _ fun _ => .of_speaks .display .display

theorem coupled_runParse (h : ctx.Alike ctx') (filter : String) :
    Coupled (runParse ctx filter) (runParse ctx' filter) := by
  rw [runParse, runParse, h.mode]
  exact .ofExcept _ fun _ => .of_speaks .display .display

theorem coupled_runCompile (h : ctx.Alike ctx') (filter path : String) (style : Sql.Style) :
    Coupled (runCompile ctx filter path style) (runCompile ctx' filter path style) := by
  rw [runCompile, runCompile, h.mode]
  exact .files _ fun _ => .ofExcept _ fun _ => .ofExcept _ fun _ =>
    .of_speaks .showCompiled .showCompiled

theorem coupled_queryTable (h : ctx.Alike ctx') (q : QueryOptions) (t : Table) :
    Coupled (queryTable ctx q t) (queryTable ctx' q t) := by
  rw [queryTable, queryTable, h.page]
  exact .ofExcept _ fun _ => .ofExcept _ fun _ =>
    .of_speaks .showPage .showPage

theorem coupled_runQuery (h : ctx.Alike ctx') (q : QueryOptions) :
    Coupled (runQuery ctx q) (runQuery ctx' q) := by
  have hload : loadTable (m := StateM FileTree) ctx' q = loadTable ctx q := by
    simp only [loadTable, h.mode]
  rw [runQuery, runQuery, hload]
  exact .files _ fun r => .ofExcept _ fun t =>
    .after_speaking .remark .remark (coupled_queryTable h q t)

theorem coupled_showSettings (ctx ctx' : Context) (path : String) :
    Coupled (showSettings ctx path) (showSettings ctx' path) :=
  .files _ fun _ => .ofExcept _ fun _ => .files _ fun _ => .of_speaks .display .display

theorem coupled_showPath (ctx ctx' : Context) (path : String) :
    Coupled (showPath ctx path) (showPath ctx' path) :=
  .files _ fun _ => .of_speaks .print .print

theorem coupled_initSettings (ctx ctx' : Context) (path : String) (force : Bool) :
    Coupled (initSettings ctx path force) (initSettings ctx' path force) := by
  refine .files _ fun isThere => ?_
  cases isThere && !force with
  | true => exact .of_speaks .showInitialized .showInitialized
  | false =>
    exact .files _ fun _ => .ofExcept _ fun _ => .of_speaks .showInitialized .showInitialized

theorem coupled_runConfig (ctx ctx' : Context) (env : Environment) (action : ConfigAction) :
    Coupled (runConfig ctx env action) (runConfig ctx' env action) := by
  refine .ofExcept _ fun path => ?_
  cases action with
  | «show» => exact coupled_showSettings ctx ctx' path
  | path => exact coupled_showPath ctx ctx' path
  | init force => exact coupled_initSettings ctx ctx' path force

/-- A command in two contexts. -/
theorem Command.coupled_run (h : ctx.Alike ctx') (env : Environment) (c : Command) :
    Coupled (c.run ctx env) (c.run ctx' env) := by
  cases c with
  | tokens filter => exact coupled_runTokens h filter
  | parse filter => exact coupled_runParse h filter
  | compile filter schema style => exact coupled_runCompile h filter schema style
  | query q => exact coupled_runQuery h q
  | config action => exact coupled_runConfig ctx ctx' env action
  | completions shell => exact .of_speaks .print .print

/-! ## What failing commands have written -/

theorem failsWith_runConfig (ctx : Context) (env : Environment) (action : ConfigAction) :
    FailsWith Failure.IsError (runConfig ctx env action) := by
  refine .ofResult _ fun path => ?_
  cases action with
  | «show» =>
    exact .files _ fun _ => .ofResult _ fun _ => .files _ fun _ => .of_speaks .display
  | path => exact .files _ fun _ => .of_speaks .print
  | init force =>
    refine .files _ fun isThere => ?_
    cases isThere && !force with
    | true => exact .of_speaks .showInitialized
    | false => exact .files _ fun _ => .ofResult _ fun _ => .of_speaks .showInitialized

/-- A command that is no query fails with an error, if it fails, and has written nothing. -/
theorem Command.failsWith_run (ctx : Context) (env : Environment) {c : Command}
    (h : ∀ q, c ≠ .query q) : FailsWith Failure.IsError (c.run ctx env) := by
  cases c with
  | tokens filter => exact .ofResult _ fun _ => .of_speaks .display
  | parse filter => exact .ofResult _ fun _ => .of_speaks .display
  | compile filter schema style =>
    exact .files _ fun _ => .ofResult _ fun _ => .ofResult _ fun _ =>
      .of_speaks .showCompiled
  | query q => exact absurd rfl (h q)
  | config action => exact failsWith_runConfig ctx env action
  | completions shell => exact .of_speaks .print

theorem failsWith_queryTable (ctx : Context) (q : QueryOptions) (t : Table) :
    FailsWith (fun _ => True) (queryTable ctx q t) :=
  .ofExcept (fun _ _ => trivial) fun _ => .ofExcept (fun _ _ => trivial) fun _ =>
    .of_speaks .showPage

theorem act_remark (ctx : Context) (t : Table) (files : FileTree) : ∃ remarks,
    Remarked ctx.verbose remarks ∧
      files.act {} (ctx.remark (loadedRemark t)) = ((.ok (), ⟨"", remarks⟩), files) := by
  rw [Context.remark]
  split
  · refine ⟨_, .loaded t ‹_›, ?_⟩
    rw [← String.empty_append (s := loadedRemark t ++ "\n")]
    rfl
  · exact ⟨"", .nothing, rfl⟩

/-- A query fails if its table cannot be loaded, and otherwise goes on behind at most a remark. -/
theorem act_runQuery (ctx : Context) (q : QueryOptions) (files : FileTree) :
    (∃ e, (files.perform (loadTable ctx q)).1 = .error e ∧
      files.act {} (runQuery ctx q) =
        ((.error (.error e), {}), (files.perform (loadTable ctx q)).2)) ∨
    ∃ t remarks, (files.perform (loadTable ctx q)).1 = .ok t ∧ Remarked ctx.verbose remarks ∧
      files.act {} (runQuery ctx q) =
        (files.perform (loadTable ctx q)).2.act ⟨"", remarks⟩ (queryTable ctx q t) := by
  rw [runQuery, FileTree.act_bind, FileTree.act_files]
  obtain ⟨_ | t, after⟩ := files.perform (loadTable ctx q)
  · exact .inl ⟨_, rfl, rfl⟩
  · obtain ⟨remarks, hremarked, hact⟩ := act_remark ctx t after
    refine .inr ⟨t, remarks, rfl, hremarked, ?_⟩
    show after.act {} (ctx.remark (loadedRemark t) >>= fun _ => queryTable ctx q t) = _
    rw [FileTree.act_bind, hact]

/-- What a command has written that fails: nothing, or the remark that a table has been loaded. -/
theorem Command.silent_run {env : Environment} {c : Command} {files : FileTree} {f : Failure}
    (h : (files.act {} (c.run ctx env)).1.1 = .error f) :
    (files.act {} (c.run ctx env)).1.2.output = "" ∧
      Remarked ctx.verbose (files.act {} (c.run ctx env)).1.2.errors := by
  -- A query is the only command that writes something before all that may fail.
  by_cases hquery : ∃ q, c = .query q
  · obtain ⟨q, rfl⟩ := hquery
    rw [run] at h ⊢
    obtain ⟨e, -, hact⟩ | ⟨t, remarks, -, hremarked, hact⟩ := act_runQuery ctx q files
    · rw [hact]
      exact ⟨rfl, .nothing⟩
    · rw [hact] at h ⊢
      rw [(failsWith_queryTable ctx q t _ _ f h).2]
      exact ⟨rfl, hremarked⟩
  · obtain ⟨-, hs⟩ := failsWith_run ctx env (fun q hq => hquery ⟨q, hq⟩) files {} f h
    rw [hs]
    exact ⟨rfl, .nothing⟩

/-! ## Crashes -/

/-- A query whose rows cannot be sorted. -/
def QueryOptions.BreaksOff (q : QueryOptions) (settings : PageSettings) (t : Table) : Prop :=
  ∃ r, q.request settings = .ok r ∧ t.answer (r.query none) = .error .disorder

/-- Rows that cannot be sorted are many, and their cells are not comparable. -/
theorem QueryOptions.BreaksOff.exists_order {q : QueryOptions} {settings : PageSettings} {t : Table}
    (h : q.BreaksOff settings t) : ∃ r order matching, q.request settings = .ok r ∧
      (r.query none).order? = some order ∧ t.select (r.query none).filter? = .ok matching ∧
      Table.comparable order.column matching = false ∧ 20 < matching.length := by
  obtain ⟨r, hr, hdisorder⟩ := h
  obtain ⟨matching, hmatching, -, hnone⟩ := Table.answer_eq_disorder_iff.1 hdisorder
  obtain ⟨order, horder, hcomparable, hlength, -⟩ := Table.exists_of_ordered?_eq_none hnone
  exact ⟨r, order, matching, hr, horder, hmatching, hcomparable, hlength⟩

/-- A query crashes on a table whose rows cannot be sorted. -/
theorem queryTable_eq_crash_iff {q : QueryOptions} {t : Table} {files : FileTree} {s : Streams} :
    (∃ message, (files.act s (queryTable ctx q t)).1.1 = .error (.crash message)) ↔
      q.BreaksOff ctx.page t := by
  rw [queryTable, QueryOptions.BreaksOff, FileTree.act_bind, FileTree.act_ofExcept]
  cases q.request ctx.page with
  | error e => exact ⟨nofun, nofun⟩
  | ok r =>
    simp only [mapError_ok, r.page_table t none, Except.ok.injEq, exists_eq_left',
      FileTree.act_bind, FileTree.act_ofExcept]
    rcases t.answer (r.query none) with (e | _) | rows
    · exact ⟨nofun, nofun⟩
    · exact ⟨fun _ => rfl, fun _ => ⟨_, rfl⟩⟩
    · refine iff_of_false ?_ nofun
      rintro ⟨message, h⟩
      cases (Speaks.ok .showPage files s).symm.trans h

/-- A command only crashes if it is a query whose rows cannot be sorted. -/
theorem Command.crashes_iff {env : Environment} {c : Command} {files : FileTree} :
    (∃ message, (files.act {} (c.run ctx env)).1.1 = .error (.crash message)) ↔
      ∃ q t, c = .query q ∧ (files.perform (loadTable ctx q)).1 = .ok t ∧
        q.BreaksOff ctx.page t := by
  by_cases hquery : ∃ q, c = .query q
  · obtain ⟨q, rfl⟩ := hquery
    simp only [Command.query.injEq, exists_and_left, exists_eq_left']
    rw [run]
    obtain ⟨e, hload, hact⟩ | ⟨t, remarks, hload, -, hact⟩ := act_runQuery ctx q files
    · rw [hact, hload]
      exact ⟨nofun, nofun⟩
    · rw [hact, hload]
      simp only [Except.ok.injEq, exists_eq_left']
      exact queryTable_eq_crash_iff
  · refine iff_of_false ?_ fun ⟨q, _, hq, _⟩ => hquery ⟨q, hq⟩
    rintro ⟨message, h⟩
    obtain ⟨⟨e, he⟩, -⟩ := failsWith_run ctx env (fun q hq => hquery ⟨q, hq⟩) files {} _ h
    cases he

/-! ## Invocations -/

/-- Loading settings leaves the files as they are. -/
theorem files_loadSettings (path : String) (files : FileTree) :
    (files.perform (loadSettings path)).2 = files := by
  rw [loadSettings, FileTree.perform_bind]
  cases (files.perform (Files.isThere path)).1 with
  | false => rfl
  | true =>
    show ((files.perform (Files.read path >>= _)).2 = files)
    rw [FileTree.perform_bind]
    cases (files.perform (Files.read path)).1 <;> rfl

theorem Command.files_loadSettings (env : Environment) (c : Command) (files : FileTree) :
    (files.perform (c.loadSettings env)).2 = files := by
  rw [loadSettings]
  split
  · cases env.configPath with
    | error e => rfl
    | ok path => exact RowQuery.files_loadSettings path files
  · rfl

theorem Speaks.greet {quiet : Bool} : Speaks (if quiet then pure () else .print greeting) := by
  split
  · exact .nothing
  · exact .print

namespace Invocation

variable {i i' : Invocation} {env : Environment}

theorem coupled_action (hcommand : i'.command? = i.command?)
    (hstrict : i'.options.strict = i.options.strict) : Coupled (i.action env) (i'.action env) := by
  rw [action, action, hcommand]
  cases i.command? with
  | none => exact .of_speaks .greet .greet
  | some c =>
    refine .files _ fun r => .ofExcept _ fun settings => ?_
    have halike : (Context.ofSettings i.options settings).Alike (.ofSettings i'.options settings) :=
      ⟨by rw [Context.ofSettings, Context.ofSettings, hstrict], rfl⟩
    exact c.coupled_run halike env

/-- An invocation without a command only writes to the streams. -/
theorem speaks_action_of_none (hcommand : i.command? = none) : Speaks (i.action env) := by
  rw [action, hcommand]
  exact .greet

/-- An invocation of a command fails if the settings cannot be loaded, and otherwise carries the
    command out. -/
theorem act_action_some (files : FileTree) {c : Command} (hcommand : i.command? = some c) :
    files.act {} (i.action env) = match (files.perform (c.loadSettings env)).1 with
      | .error e => ((.error (.error (.config e)), {}), files)
      | .ok settings => files.act {} (c.run (.ofSettings i.options settings) env) := by
  rw [action, hcommand]
  show files.act {} (.files (c.loadSettings env) >>= _) = _
  rw [FileTree.act_bind, FileTree.act_files, c.files_loadSettings]
  cases (files.perform (c.loadSettings env)).1 <;> rfl

/-- What an invocation has written that fails: nothing, or that a table has been loaded. -/
theorem silent_action {files : FileTree} {f : Failure}
    (h : (files.act {} (i.action env)).1.1 = .error f) :
    (files.act {} (i.action env)).1.2.output = "" ∧
      Remarked i.options.verbose (files.act {} (i.action env)).1.2.errors := by
  cases hcommand : i.command? with
  | none =>
    rw [Speaks.ok (speaks_action_of_none hcommand) files {}] at h
    cases h
  | some c =>
    rw [act_action_some files hcommand] at h ⊢
    cases hsettings : (files.perform (c.loadSettings env)).1 with
    | error e => exact ⟨rfl, .nothing⟩
    | ok settings =>
      rw [hsettings] at h
      exact Command.silent_run h

/-- Two invocations of one command fail alike, and leave the same files. -/
theorem exists_tells (hcommand : i'.command? = i.command?)
    (hstrict : i'.options.strict = i.options.strict) (env : Environment) (files : FileTree) :
    (∃ failure?, (files.perform (i.run env)).1.Tells i.options failure? ∧
      (files.perform (i'.run env)).1.Tells i'.options failure?) ∧
    (files.perform (i.run env)).2 = (files.perform (i'.run env)).2 := by
  have hcoupled : Coupled (i.action env) (i'.action env) := coupled_action hcommand hstrict
  obtain ⟨hsame, hfiles⟩ := hcoupled files {} {}
  have htells : (files.perform (i.run env)).1.Tells i.options ((i.action env).failure? files) :=
    Action.tells_outcome fun _ => silent_action
  have htells' : (files.perform (i'.run env)).1.Tells i'.options ((i'.action env).failure? files) :=
    Action.tells_outcome fun _ => silent_action
  have hfailure := Action.failure?_eq_of_sameFault hsame
  refine ⟨⟨_, htells, hfailure ▸ htells'⟩, ?_⟩
  rw [run, run, Action.files_outcome, Action.files_outcome, hfiles]

/-- An invocation of a query whose rows cannot be sorted. -/
def BreaksOff (i : Invocation) (env : Environment) (files : FileTree) : Prop :=
  ∃ q settings t, i.command? = some (.query q) ∧
    (files.perform ((Command.query q).loadSettings env)).1 = .ok settings ∧
    (files.perform (loadTable (.ofSettings i.options settings) q)).1 = .ok t ∧
    q.BreaksOff settings.page t

/-- A run crashes exactly if it is that of a query whose rows cannot be sorted. -/
theorem exit_run_eq_crash_iff {files : FileTree} :
    (files.perform (i.run env)).1.exit = 101 ↔ i.BreaksOff env files := by
  refine Action.exit_outcome_eq_crash_iff.trans ?_
  rw [BreaksOff]
  cases hcommand : i.command? with
  | none =>
    rw [Speaks.ok (speaks_action_of_none hcommand) files {}]
    refine iff_of_false nofun ?_
    rintro ⟨q, settings, t, hq, -⟩
    cases hq
  | some c =>
    rw [act_action_some files hcommand]
    simp only [Option.some.injEq]
    cases hsettings : (files.perform (c.loadSettings env)).1 with
    | error e =>
      refine iff_of_false nofun ?_
      rintro ⟨q, settings, t, rfl, hload, -⟩
      rw [hsettings] at hload
      cases hload
    | ok settings =>
      refine Command.crashes_iff.trans ⟨?_, ?_⟩
      · rintro ⟨q, t, rfl, hload, hbreaks⟩
        exact ⟨q, settings, t, rfl, hsettings, hload, hbreaks⟩
      · rintro ⟨q, settings', t, rfl, hsettings', hload, hbreaks⟩
        cases hsettings.symm.trans hsettings'
        exact ⟨q, t, rfl, hload, hbreaks⟩

end Invocation

end RowQuery
