import Mathlib.Tactic.ByContra
import RowQuery.Proofs.Command.Ending
import RowQuery.Proofs.Files.Changes

/-!
# What runs write

Every command but the one that writes the configuration file to begin with only reads files. That
one makes the directories on the way to the file and writes the file itself, unless the file is
there already and is not to be replaced. So over any number of runs no other file changes, and once
the file has been written the settings are the defaults.

Whether the file is there is found out before the directories are made. A path with steps that lead
up may name a file and lead to it only afterwards: such a file is replaced without being asked for.

* `Command.onlyReads_run`: commands that only read;
* `initialized_initSettings`: the ways on which the configuration file is written, or not;
* `FileTree.affected_run`: what a run does to files;
* `FileTree.runs_write_settings`: what any number of runs do to files;
* `FileTree.init_replaces_settings`: a file that is replaced.
-/

namespace RowQuery

/-! ## Reading -/

/-- Whether an action leaves all files as they are. -/
def OnlyReads {α : Type} (x : StateM FileTree α) : Prop :=
  ∀ files : FileTree, (files.perform x).2 = files

namespace OnlyReads

variable {α β : Type} {x : StateM FileTree α} {f : α → StateM FileTree β}

theorem pure (a : α) : OnlyReads (pure a) :=
  fun _ => rfl

theorem bind (hx : OnlyReads x) (hf : ∀ a, OnlyReads (f a)) : OnlyReads (x >>= f) := by
  intro files
  rw [FileTree.perform_bind, hx files]
  exact hf _ files

theorem isThere (path : String) : OnlyReads (Files.isThere path) :=
  fun _ => rfl

theorem read (path : String) : OnlyReads (Files.read path) :=
  fun _ => rfl

end OnlyReads

theorem onlyReads_loadSchema (path : String) : OnlyReads (loadSchema path) := by
  refine .bind (.read path) fun r => ?_
  cases r <;> exact .pure _

theorem onlyReads_loadSchema? (path? : Option String) : OnlyReads (loadSchema? path?) := by
  cases path? with
  | none => exact .pure _
  | some path => exact .bind (onlyReads_loadSchema path) fun _ => .pure _

theorem onlyReads_loadData (path : String) : OnlyReads (loadData path) := by
  refine .bind (.read path) fun r => ?_
  cases r <;> exact .pure _

theorem onlyReads_loadTable (ctx : Context) (q : QueryOptions) : OnlyReads (loadTable ctx q) := by
  refine .bind (onlyReads_loadSchema? q.schema?) fun r => ?_
  cases r with
  | error e => exact .pure _
  | ok schema? =>
    refine .bind (onlyReads_loadData q.data) fun r => ?_
    cases r <;> exact .pure _

/-- Whether a command that does so leaves all files as they are. -/
def Action.OnlyReads {α : Type} (x : Action (StateM FileTree) α) : Prop :=
  ∀ (files : FileTree) (s : Streams), (files.act s x).2 = files

namespace Action.OnlyReads

variable {α β : Type} {f : α → Action (StateM FileTree) β} {y : Action (StateM FileTree) β}

theorem files {x : StateM FileTree α} (hx : RowQuery.OnlyReads x) (hf : ∀ a, OnlyReads (f a)) :
    OnlyReads (.files x >>= f) := by
  intro files s
  rw [FileTree.act_bind, FileTree.act_files, hx files]
  exact hf _ files s

theorem ofExcept (r : Except Failure α) (hf : ∀ a, OnlyReads (f a)) :
    OnlyReads (.ofExcept r >>= f) := by
  intro files s
  rw [FileTree.act_bind, FileTree.act_ofExcept]
  cases r with
  | ok a => exact hf a files s
  | error e => rfl

theorem of_speaks {x : Action (StateM FileTree) Unit} (hx : Speaks x) : OnlyReads x := by
  intro files s
  obtain ⟨t, ht⟩ := hx files s
  rw [ht]

theorem after_speaking {x : Action (StateM FileTree) Unit} (hx : Speaks x) (hy : OnlyReads y) :
    OnlyReads (x >>= fun _ => y) := by
  intro files s
  obtain ⟨t, ht⟩ := hx files s
  rw [FileTree.act_bind, ht]
  exact hy files t

end Action.OnlyReads

theorem onlyReads_queryTable (ctx : Context) (q : QueryOptions) (t : Table) :
    Action.OnlyReads (queryTable ctx q t) :=
  .ofExcept _ fun _ => .ofExcept _ fun _ => .of_speaks .showPage

/-- Commands that do not write the configuration file only read. -/
theorem Command.onlyReads_run (ctx : Context) (env : Environment) {c : Command}
    (h : ∀ force, c ≠ .config (.init force)) : Action.OnlyReads (c.run ctx env) := by
  cases c with
  | tokens | parse => exact .ofExcept _ fun _ => .of_speaks .display
  | compile filter schema style =>
    exact .files (onlyReads_loadSchema schema) fun _ => .ofExcept _ fun _ => .ofExcept _ fun _ =>
      .of_speaks .showCompiled
  | query q =>
    exact .files (onlyReads_loadTable ctx q) fun _ => .ofExcept _ fun t =>
      .after_speaking .remark (onlyReads_queryTable ctx q t)
  | config action =>
    refine .ofExcept _ fun path => ?_
    cases action with
    | «show» =>
      exact .files (RowQuery.files_loadSettings path) fun _ => .ofExcept _ fun _ =>
        .files (.isThere path) fun _ => .of_speaks .display
    | path => exact .files (.isThere path) fun _ => .of_speaks .print
    | init force => exact absurd rfl (h force)
  | completions shell => exact .of_speaks .print

/-- Invocations that do not write the configuration file only read. -/
theorem Invocation.onlyReads_run {i : Invocation} (env : Environment)
    (h : ∀ force, i.command? ≠ some (.config (.init force))) : OnlyReads (i.run env) := by
  intro files
  rw [run, Action.files_outcome]
  cases hcommand : i.command? with
  | none => exact Action.OnlyReads.of_speaks (speaks_action_of_none hcommand) files {}
  | some c =>
    rw [act_action_some files hcommand]
    cases (files.perform (c.loadSettings env)).1 with
    | error e => rfl
    | ok settings =>
      exact c.onlyReads_run _ env (fun force hc => h force (by rw [hcommand, hc])) files {}

/-! ## Writing -/

/-- How an attempt ends to write the configuration file to begin with. -/
inductive Initialized (files : FileTree) (path : String) (force : Bool) :
    Except Failure Unit → FileTree → Prop
  /-- The file is kept. -/
  | kept (hthere : (files.find? path).isSome = true) (hforce : force = false) :
      Initialized files path force (.ok ()) files
  | failed {after : FileTree} (f : Failure) (hgrown : files.Grown after) :
      Initialized files path force (.error f) after
  | written {made after : FileTree} (hasked : force = true ∨ files.find? path = none)
      (hgrown : files.Grown made) (hwrite : made.write path Settings.initialText = .ok after) :
      Initialized files path force (.ok ()) after

/-- A file is written, or the files stay as they are. -/
theorem perform_write (files : FileTree) (path content : String) :
    (∃ after, files.write path content = .ok after ∧
      files.perform (Files.write path content) = (.ok (), after)) ∨
    ∃ e, files.perform (Files.write path content) = (.error e, files) := by
  cases h : files.write path content with
  | ok after =>
    refine .inl ⟨after, rfl, ?_⟩
    simp only [FileTree.perform, Files.write, bind_pure_comp, StateT.run_bind, StateT.run_get,
      pure_bind, h, StateT.run_map, StateT.run_set, map_pure]
    rfl
  | error e =>
    refine .inr ⟨e, ?_⟩
    simp only [FileTree.perform, Files.write, bind_pure_comp, StateT.run_bind, StateT.run_get,
      pure_bind, h, StateT.run_pure]
    rfl

theorem perform_makeDirectories (files : FileTree) (path : String) :
    files.perform (Files.makeDirectories path) =
      ((files.makeDirectories path).2, (files.makeDirectories path).1) :=
  rfl

/-- The configuration file is written, or no file is. -/
theorem perform_writeSettings (files : FileTree) (path : String) : ∃ made, files.Grown made ∧
    ((∃ after, made.write path Settings.initialText = .ok after ∧
      files.perform (writeSettings path) = (.ok (), after)) ∨
    ∃ e, files.perform (writeSettings path) = (.error e, made)) := by
  rw [writeSettings]
  cases Path.parent? path with
  | none =>
    refine ⟨files, .refl files, ?_⟩
    simp only [FileTree.perform_bind]
    rcases perform_write files path Settings.initialText with ⟨after, hafter, h⟩ | ⟨e, h⟩
    · exact .inl ⟨after, hafter, by rw [h]; rfl⟩
    · exact .inr ⟨_, by rw [h]; rfl⟩
  | some directory =>
    refine ⟨_, files.grown_makeDirectories directory, ?_⟩
    simp only [FileTree.perform_bind, perform_makeDirectories]
    cases (files.makeDirectories directory).2 with
    | error e => exact .inr ⟨_, rfl⟩
    | ok _ =>
      simp only [FileTree.perform_bind]
      rcases perform_write _ path Settings.initialText with ⟨after, hafter, h⟩ | ⟨e, h⟩
      · exact .inl ⟨after, hafter, by rw [h]; rfl⟩
      · exact .inr ⟨_, by rw [h]; rfl⟩

/-- The ways on which the configuration file is written, or not. -/
theorem initialized_initSettings (ctx : Context) (files : FileTree) (path : String)
    (force : Bool) : Initialized files path force
      (files.act {} (initSettings ctx path force)).1.1
      (files.act {} (initSettings ctx path force)).2 := by
  have hact : files.act {} (initSettings ctx path force) = files.act {}
      (if (files.find? path).isSome && !force then showInitialized ctx path false
      else .files (writeSettings path) >>= fun r => .ofConfig r >>= fun _ =>
        showInitialized ctx path true) :=
    rfl
  rw [hact]
  cases hasked : (files.find? path).isSome && !force with
  | true =>
    rw [Bool.and_eq_true, Bool.not_eq_true'] at hasked
    obtain ⟨t, ht⟩ : ∃ t, files.act {} (showInitialized ctx path false) = ((.ok (), t), files) :=
      Speaks.showInitialized files {}
    rw [if_pos rfl, ht]
    exact .kept hasked.1 hasked.2
  | false =>
    have hasked : force = true ∨ files.find? path = none := by
      rw [Bool.and_eq_false_iff, Bool.not_eq_false', Option.isSome_eq_false_iff,
        Option.isNone_iff_eq_none] at hasked
      exact hasked.symm
    rw [if_neg Bool.false_ne_true, FileTree.act_bind, FileTree.act_files]
    obtain ⟨made, hgrown, ⟨after, hafter, h⟩ | ⟨e, h⟩⟩ := perform_writeSettings files path
    · obtain ⟨t, ht⟩ : ∃ t, after.act {} (showInitialized ctx path true) = ((.ok (), t), after) :=
        Speaks.showInitialized after {}
      rw [h]
      show Initialized files path force (after.act {} (showInitialized ctx path true)).1.1
        (after.act {} (showInitialized ctx path true)).2
      rw [ht]
      exact .written hasked hgrown hafter
    · rw [h]
      exact .failed _ hgrown

/-- The command line that asks for the configuration file to be written, and where it is. -/
structure Invocation.Initializes (env : Environment) (arguments : List String) (path : String)
    (force : Bool) : Prop where
  path_eq : env.configPath = .ok path
  read_eq : ∃ options, Invocation.read arguments = .ok ⟨options, some (.config (.init force))⟩

/-- What a run does to files: what it shows, and the files after it. -/
inductive FileTree.Affected (env : Environment) (files : FileTree) (arguments : List String) :
    Outcome × FileTree → Prop
  /-- It leaves them as they are. -/
  | unchanged (o : Outcome) (h : ∀ path force, Invocation.Initializes env arguments path force →
      force = false ∧ (files.find? path).isSome = true) : Affected env files arguments (o, files)
  /-- It fails to write the configuration file. -/
  | failed {o : Outcome} {after : FileTree} (hexit : o.exit ≠ 0) (hgrown : files.Grown after) :
      Affected env files arguments (o, after)
  | written {o : Outcome} {made after : FileTree} {path : String} {force : Bool}
      (hasks : Invocation.Initializes env arguments path force) (hexit : o.exit = 0)
      (hasked : force = true ∨ files.find? path = none) (hgrown : files.Grown made)
      (hwrite : made.write path Settings.initialText = .ok after) :
      Affected env files arguments (o, after)

/-- An invocation to write the configuration file. -/
theorem FileTree.affected_init {env : Environment} {arguments : List String} {options : Options}
    {force : Bool} (files : FileTree)
    (hread : Invocation.read arguments = .ok ⟨options, some (.config (.init force))⟩) :
    files.Affected env arguments
      (files.perform (Invocation.run ⟨options, some (.config (.init force))⟩ env)) := by
  let ctx := Context.ofSettings options {}
  have hact : files.act {} (Invocation.action ⟨options, some (.config (.init force))⟩ env) =
      files.act {} (.ofConfig env.configPath >>= fun path => initSettings ctx path force) :=
    (Invocation.act_action_some (i := ⟨options, some (.config (.init force))⟩) files rfl).trans rfl
  rw [Invocation.run, Action.perform_outcome, hact, FileTree.act_bind, Action.ofConfig,
    Action.ofResult, FileTree.act_ofExcept]
  cases hpath : env.configPath with
  | error e => exact .failed (Nat.ne_of_gt (Failure.error (.config e)).exit_pos) (.refl files)
  | ok path =>
    have hinit := initialized_initSettings ctx files path force
    simp only [mapError_ok]
    generalize files.act {} (initSettings ctx path force) = r at hinit ⊢
    obtain ⟨⟨result, s⟩, after⟩ := r
    cases hinit with
    | kept hthere hforce =>
      refine .unchanged _ fun path' force' h => ?_
      obtain ⟨options', hread'⟩ := h.read_eq
      cases hpath.symm.trans h.path_eq
      cases hread.symm.trans hread'
      exact ⟨hforce, hthere⟩
    | failed f hgrown => exact .failed (Nat.ne_of_gt f.exit_pos) hgrown
    | written hasked hgrown hwrite =>
      exact .written ⟨hpath, options, hread⟩ rfl hasked hgrown hwrite

/-- What a run does to files. -/
theorem FileTree.affected_run (env : Environment) (files : FileTree) (arguments : List String) :
    files.Affected env arguments (files.perform (runProgram env arguments)) := by
  rw [runProgram]
  cases hread : Invocation.read arguments with
  | error stop =>
    refine .unchanged stop.outcome fun path force h => ?_
    obtain ⟨options, hoptions⟩ := h.read_eq
    rw [hread] at hoptions
    cases hoptions
  | ok i =>
    by_cases hinit : ∃ force, i.command? = some (.config (.init force))
    · obtain ⟨force, hforce⟩ := hinit
      obtain ⟨options, _⟩ := i
      cases hforce
      exact files.affected_init hread
    · have hfiles := Invocation.onlyReads_run env (fun force h => hinit ⟨force, h⟩) files
      have hrun : files.perform (i.run env) = ((files.perform (i.run env)).1, files) :=
        Prod.ext rfl hfiles
      refine hrun ▸ .unchanged _ fun path force h => ?_
      obtain ⟨options, hoptions⟩ := h.read_eq
      rw [hread] at hoptions
      cases hoptions
      exact absurd ⟨force, rfl⟩ hinit

/-! ## Any number of runs -/

/-- The files after some runs, with the arguments of each. -/
def FileTree.afterRuns (env : Environment) (files : FileTree) (runs : List (List String)) :
    FileTree :=
  runs.foldl (fun files arguments => (files.perform (runProgram env arguments)).2) files

/-- The settings that the configuration file begins with are the defaults. -/
theorem readSettings_initialText : readSettings Settings.initialText = .ok {} := by
  have h : Settings.ofChars? Settings.initialChars = some {} := by decide +kernel
  rw [readSettings, Settings.ofText?, Settings.initialText, String.toList_ofList, h]

/-- Once the configuration file has been written, the settings are the defaults. -/
theorem FileTree.loadSettings_of_write {made after : FileTree} {path : String}
    (h : made.write path Settings.initialText = .ok after) :
    (after.perform (loadSettings path)).1 = .ok {} := by
  have hthere : after.perform (Files.isThere path) = ((after.find? path).isSome, after) := rfl
  have hread : after.perform (Files.read path) = (after.read path, after) := rfl
  rw [loadSettings, perform_bind, hthere, find?_write h]
  simp only [Option.isSome_some, if_true, perform_bind, hread, read_write h,
    readSettings_initialText]
  rfl

namespace FileTree

variable {env : Environment} {files before : FileTree} {arguments : List String}
  {run : Outcome × FileTree}

/-- What has become of the files after any number of runs: only the content of the configuration
    file may be another, and it is then the one to begin with. -/
structure Settled (env : Environment) (files after : FileTree) : Prop where
  wellFormed : after.WellFormed
  working : after.working = files.working
  content : ∀ p, after.content? p = files.content? p ∨ ∃ path, env.configPath = .ok path ∧
    p = files.place path ∧ after.content? p = some Settings.initialText

theorem Settled.place_eq (h : Settled env files before) (path : String) :
    before.place path = files.place path := by
  rw [place, place, h.working]

/-- A file that a run changes is the configuration file. -/
theorem Affected.exists_written (h : before.Affected env arguments run) {p : Place}
    (hp : run.2.content? p ≠ before.content? p) : ∃ path force made,
      Invocation.Initializes env arguments path force ∧ p = before.place path ∧ run.1.exit = 0 ∧
      (force = true ∨ before.find? path = none) ∧ before.Grown made ∧
      made.write path Settings.initialText = .ok run.2 := by
  cases h with
  | unchanged o h => exact absurd rfl hp
  | failed hexit hgrown => exact absurd (hgrown.content?_eq p) hp
  | @written o made after path force hasks hexit hasked hgrown hwrite =>
    refine ⟨path, force, made, hasks, ?_, hexit, hasked, hgrown, hwrite⟩
    by_contra hother
    rw [← hgrown.place_eq] at hother
    exact hp ((content?_write_of_ne hwrite hother).trans (hgrown.content?_eq p))

/-- A run that is to write the configuration file, and succeeds, has written it. -/
theorem Affected.exists_made (h : before.Affected env arguments run) {path : String} {force : Bool}
    (hasks : Invocation.Initializes env arguments path force)
    (hasked : force = true ∨ before.find? path = none) (hexit : run.1.exit = 0) :
    ∃ made, before.Grown made ∧ made.write path Settings.initialText = .ok run.2 := by
  cases h with
  | unchanged o h =>
    obtain ⟨hforce, hthere⟩ := h path force hasks
    rcases hasked with hasked | hasked
    · rw [hforce] at hasked
      cases hasked
    · rw [hasked] at hthere
      cases hthere
  | failed hfails => exact absurd hexit hfails
  | @written o made after path' force' hasks' _ _ hgrown hwrite =>
    cases hasks.path_eq.symm.trans hasks'.path_eq
    exact ⟨made, hgrown, hwrite⟩

/-- One run more. -/
theorem Settled.step (h : Settled env files before) (hrun : before.Affected env arguments run) :
    Settled env files run.2 := by
  refine ⟨?_, ?_, fun p => ?_⟩
  · cases hrun with
    | unchanged => exact h.wellFormed
    | failed _ hgrown => exact hgrown.wellFormed h.wellFormed
    | written _ _ _ hgrown hwrite => exact (hgrown.wellFormed h.wellFormed).write hwrite
  · cases hrun with
    | unchanged => exact h.working
    | failed _ hgrown => exact hgrown.working.trans h.working
    | written _ _ _ hgrown hwrite =>
      exact (working_write hwrite).trans (hgrown.working.trans h.working)
  · by_cases hp : run.2.content? p = before.content? p
    · rw [hp]
      exact h.content p
    · obtain ⟨path, force, made, hasks, rfl, -, -, hgrown, hwrite⟩ := hrun.exists_written hp
      have hplace : before.place path = made.place path := (hgrown.place_eq path).symm
      exact .inr ⟨path, hasks.path_eq, h.place_eq path, hplace ▸ content?_write hwrite⟩

/-- Any number of runs. -/
theorem settled_afterRuns (env : Environment) (h : files.WellFormed) (runs : List (List String)) :
    Settled env files (files.afterRuns env runs) := by
  have hfold : ∀ before, Settled env files before →
      Settled env files (before.afterRuns env runs) := by
    induction runs with
    | nil => exact fun _ hbefore => hbefore
    | cons arguments runs ih =>
      exact fun before hbefore => ih _ (hbefore.step (affected_run env before arguments))
  exact hfold files ⟨h, rfl, fun _ => .inl rfl⟩

/-- Runs with any arguments, one after the other, on files in memory. The content of a file changes
    only if the file is the configuration file, and the run is one to write it, succeeds, and is to
    replace the file or does not find it: there is none, or the path has steps that lead up and
    there is nothing where it leads. The content is then the one to begin with, and the settings
    that are loaded are the defaults. So they are after every run that writes the configuration
    file. After all runs, every other file has the content that it had at first. -/
theorem runs_write_settings (env : Environment) (files : FileTree) (hfiles : files.WellFormed)
    (runs : List (List String)) (arguments : List String) :
    let before := files.afterRuns env runs
    let run := before.perform (runProgram env arguments)
    (∀ p, run.2.content? p ≠ before.content? p → ∃ path options force,
      env.configPath = .ok path ∧ p = files.place path ∧
      Invocation.read arguments = .ok ⟨options, some (.config (.init force))⟩ ∧ run.1.exit = 0 ∧
      (force = true ∨ before.content? p = none ∨
        before.find? path = none ∧ ".." ∈ Path.steps path) ∧
      run.2.content? p = some Settings.initialText ∧
      (run.2.perform (loadSettings path)).1 = .ok {}) ∧
    (∀ path options force, env.configPath = .ok path →
      Invocation.read arguments = .ok ⟨options, some (.config (.init force))⟩ →
      force = true ∨ before.find? path = none → run.1.exit = 0 →
      run.2.content? (files.place path) = some Settings.initialText ∧
      (run.2.perform (loadSettings path)).1 = .ok {}) ∧
    ∀ p, before.content? p = files.content? p ∨ ∃ path, env.configPath = .ok path ∧
      p = files.place path ∧ before.content? p = some Settings.initialText := by
  intro before run
  have hbefore : Settled env files before := settled_afterRuns env hfiles runs
  have hrun : before.Affected env arguments run := affected_run env before arguments
  refine ⟨fun p hp => ?_, fun path options force hpath hread hasked hexit => ?_, hbefore.content⟩
  · obtain ⟨path, force, made, hasks, rfl, hexit, hasked, hgrown, hwrite⟩ :=
      hrun.exists_written hp
    obtain ⟨options, hread⟩ := hasks.read_eq
    have hplace : before.place path = made.place path := (hgrown.place_eq path).symm
    refine ⟨path, options, force, hasks.path_eq, hbefore.place_eq path, hread, hexit,
      hasked.imp_right fun hnone => ?_, hplace ▸ content?_write hwrite,
      loadSettings_of_write hwrite⟩
    by_cases hup : ".." ∈ Path.steps path
    · exact .inr ⟨hnone, hup⟩
    · left
      cases hold : before.content? (before.place path) with
      | none => rfl
      | some old =>
        have hfound := find?_of_content? hbefore.wellFormed hgrown hwrite hup hold
        rw [hfound] at hnone
        cases hnone
  · obtain ⟨made, hgrown, hwrite⟩ :=
      hrun.exists_made ⟨hpath, options, hread⟩ hasked hexit
    have hplace : made.place path = files.place path :=
      (hgrown.place_eq path).trans (hbefore.place_eq path)
    exact ⟨hplace ▸ content?_write hwrite, loadSettings_of_write hwrite⟩

/-- A configuration file that says something is kept by a run, and replaced by one that is forced
    to. -/
theorem runs_write_settings_forced :
    let env : Environment := { config? := some "qf.toml" }
    let files := ofFiles ["home"] [("qf.toml", "[output]\ncolor = false\n")]
    let before := files.afterRuns env [["config", "init"]]
    let run := before.perform (runProgram env ["config", "init", "--force"])
    before.content? ["home", "qf.toml"] = some "[output]\ncolor = false\n" ∧
      run.1.exit = 0 ∧ run.2.content? ["home", "qf.toml"] = some Settings.initialText ∧
      (run.2.perform (loadSettings "qf.toml")).1 = .ok {} := by
  intro env files before run
  have hold : before.content? ["home", "qf.toml"] = some "[output]\ncolor = false\n" := by
    decide +kernel
  have hread : Invocation.read ["config", "init", "--force"] =
      .ok ⟨{}, some (.config (.init true))⟩ := by
    decide +kernel
  have hexit : run.1.exit = 0 := by decide +kernel
  have hplace : files.place "qf.toml" = ["home", "qf.toml"] := by decide +kernel
  obtain ⟨-, hwritten, -⟩ := runs_write_settings env files (wellFormed_ofFiles _ _)
    [["config", "init"]] ["config", "init", "--force"]
  obtain ⟨hcontent, hsettings⟩ := hwritten "qf.toml" {} true rfl hread (.inl rfl) hexit
  exact ⟨hold, hexit, hplace ▸ hcontent, hsettings⟩

/-- A configuration file that says something is replaced, without being asked for, by a run that
    finds nothing where its path leads, for want of a directory that the run then makes. -/
theorem init_replaces_settings :
    let env : Environment := { config? := some "new/../qf.toml" }
    let files := ofFiles ["home"] [("qf.toml", "[output]\ncolor = false\n")]
    let run := files.perform (runProgram env ["config", "init"])
    Invocation.read ["config", "init"] = .ok ⟨{}, some (.config (.init false))⟩ ∧
      files.content? ["home", "qf.toml"] = some "[output]\ncolor = false\n" ∧
      run.1.exit = 0 ∧ run.2.content? ["home", "qf.toml"] = some Settings.initialText := by
  intro env files run
  have hread : Invocation.read ["config", "init"] =
      .ok ⟨{}, some (.config (.init false))⟩ := by
    decide +kernel
  have hold : files.content? ["home", "qf.toml"] = some "[output]\ncolor = false\n" := by
    decide +kernel
  have hexit : run.1.exit = 0 := by decide +kernel
  have hnone : files.find? "new/../qf.toml" = none := by decide +kernel
  obtain ⟨made, hgrown, hwrite⟩ := (affected_run env files ["config", "init"]).exists_made
    ⟨rfl, {}, hread⟩ (.inr hnone) hexit
  have hplace : files.place "new/../qf.toml" = ["home", "qf.toml"] := by decide +kernel
  rw [← hplace, ← hgrown.place_eq]
  exact ⟨hread, (hgrown.place_eq _).trans hplace ▸ hold, hexit, content?_write hwrite⟩

end FileTree

end RowQuery
