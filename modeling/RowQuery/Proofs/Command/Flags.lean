import Mathlib.Data.List.Find
import Mathlib.Data.List.Forall2
import RowQuery.Proofs.Command.Ending

/-!
# Flags for what is shown

Some flags of the program only change what is shown of a result. Such a flag may stand anywhere in a
command line, so arguments are compared with the same arguments that have such flags put in
(`Flagged`). If both are accepted, they ask for the same command and agree on whether filters are
read strictly: at every word, what has been given so far is `Given.Alike`. A flag that is put in
where it would be taken for something else, as a value or as an operand, has one of them refused.

* `Topic.read_alike`: arguments are sorted alike;
* `Invocation.read_flagged`: they ask for the same;
* `runProgram_flagged`: a failing run reports its failure once and nothing else, and such flags
  change neither its exit status nor its failure nor the files it leaves;
* `runProgram_breaks_off`: a crash, which is reported otherwise.
-/

namespace RowQuery

/-- The options that only change what is shown. -/
def displayOptions : List String :=
  ["verbose", "quiet", "json", "no-color"]

/-- The words for these options. -/
def displayWords : List String :=
  ["--verbose", "-v", "--quiet", "-q", "--json", "--no-color"]

/-- Arguments, and the same with words put in anywhere that only change what is shown. -/
inductive Flagged : List String → List String → Prop
  | nil : Flagged [] []
  | keep (a : String) {as as' : List String} (h : Flagged as as') : Flagged (a :: as) (a :: as')
  | put {word : String} (hword : word ∈ displayWords) {as as' : List String} (h : Flagged as as') :
      Flagged as (word :: as')

/-! ## What is given at a topic -/

/-- What is given differs in nothing but in what is shown. Operands may still be missing in the
    first. -/
structure Given.Alike (g g' : Given) : Prop where
  value? : ∀ name, name ∉ displayOptions → g'.value? name = g.value? name
  operands : g.operands ≠ [] → g'.operands = g.operands

namespace Given

variable {g g' r r' : Given} {t : Topic} {o : Switch} {value : String}

theorem addOption_eq_ok (h : g.addOption o value = .ok r) :
    r = { g with options := g.options ++ [(o.name, value)] } := by
  rw [addOption] at h
  split at h
  · cases h
  · split at h
    · cases h
    · exact (Except.ok.inj h).symm

theorem addOperand_eq_ok (h : g.addOperand t value = .ok r) :
    g.operands = [] ∧ r = { g with operands := [value] } := by
  rw [addOperand] at h
  split at h
  · rename_i hoperands
    split at h
    · exact ⟨hoperands, (Except.ok.inj h).symm⟩
    · cases h
  · split at h <;> cases h

theorem value?_addOption (h : g.addOption o value = .ok r) (name : String) :
    r.value? name = (g.value? name).or (if name = o.name then some value else none) := by
  obtain rfl := addOption_eq_ok h
  rw [value?, List.lookup_append]
  congr 1
  by_cases hname : name = o.name
  · simp [hname]
  · simp [hname]

namespace Alike

theorem refl (g : Given) : g.Alike g :=
  ⟨fun _ _ => rfl, fun _ => rfl⟩

theorem addOption (h : g.Alike g') (hr : g.addOption o value = .ok r)
    (hr' : g'.addOption o value = .ok r') : r.Alike r' := by
  refine ⟨fun name hname => ?_, ?_⟩
  · rw [value?_addOption hr, value?_addOption hr', h.value? name hname]
  · rw [addOption_eq_ok hr, addOption_eq_ok hr']
    exact h.operands

/-- An option that only changes what is shown, given on one side. -/
theorem addOption_right (h : g.Alike g') (ho : o.name ∈ displayOptions)
    (hr' : g'.addOption o value = .ok r') : g.Alike r' := by
  refine ⟨fun name hname => ?_, ?_⟩
  · have hne : name ≠ o.name := fun heq => hname (heq ▸ ho)
    rw [value?_addOption hr', if_neg hne, Option.or_none, h.value? name hname]
  · rw [addOption_eq_ok hr']
    exact h.operands

theorem addOperand (h : g.Alike g') (hr : g.addOperand t value = .ok r)
    (hr' : g'.addOperand t value = .ok r') : r.Alike r' := by
  rw [(addOperand_eq_ok hr).2, (addOperand_eq_ok hr').2]
  exact ⟨h.value?, fun _ => rfl⟩

/-- An operand on one side. There was none before on either. -/
theorem addOperand_right (h : g.Alike g') (hr' : g'.addOperand t value = .ok r') :
    g.Alike r' := by
  obtain ⟨hnone, rfl⟩ := addOperand_eq_ok hr'
  refine ⟨h.value?, fun hne => absurd ((h.operands hne).symm.trans hnone) hne⟩

/-- Operands behind two dashes. -/
theorem foldlM_addOperand {as as' : List String} (hflagged : Flagged as as') (h : g.Alike g')
    (hr : as.foldlM (fun g a => g.addOperand t a) g = .ok r)
    (hr' : as'.foldlM (fun g a => g.addOperand t a) g' = .ok r') : r.Alike r' := by
  induction hflagged generalizing g g' with
  | nil =>
    cases hr
    cases hr'
    exact h
  | keep a _ ih =>
    rw [List.foldlM_cons, bind_eq_ok] at hr hr'
    obtain ⟨g₁, hg₁, hr⟩ := hr
    obtain ⟨g₁', hg₁', hr'⟩ := hr'
    exact ih (h.addOperand hg₁ hg₁') hr hr'
  | put _ _ ih =>
    rw [List.foldlM_cons, bind_eq_ok] at hr'
    obtain ⟨g₁', hg₁', hr'⟩ := hr'
    exact ih (h.addOperand_right hg₁') hr hr'

end Alike

/-! ## One argument -/

/-- Two results of adding an argument are alike, if both are there. -/
def AlikeIfOk (x x' : Except Stop (Given × Option Switch)) : Prop :=
  ∀ r r', x = .ok r → x' = .ok r' → r.1.Alike r'.1 ∧ r'.2 = r.2

theorem AlikeIfOk.error (e : Stop) (x : Except Stop (Given × Option Switch)) :
    AlikeIfOk (.error e) x := by
  intro r r' hr
  cases hr

theorem AlikeIfOk.map {x x' : Except Stop Given}
    (h : ∀ r r', x = .ok r → x' = .ok r' → r.Alike r') (w : Option Switch) :
    AlikeIfOk (x.map (·, w)) (x'.map (·, w)) := by
  intro r r' hr hr'
  obtain ⟨g, hg, rfl⟩ := map_eq_ok.1 hr
  obtain ⟨g', hg', rfl⟩ := map_eq_ok.1 hr'
  exact ⟨h g g' hg hg', rfl⟩

theorem alikeIfOk_beginOption (h : g.Alike g') (o : Switch) :
    AlikeIfOk (g.beginOption o) (g'.beginOption o) := by
  rw [beginOption, beginOption]
  split
  · exact .map (fun _ _ => h.addOption) none
  · rintro r r' ⟨⟩ ⟨⟩
    exact ⟨h, rfl⟩

theorem alikeIfOk_addNamed (h : g.Alike g') (t : Topic) (s : List Char) :
    AlikeIfOk (g.addNamed t s) (g'.addNamed t s) := by
  rw [addNamed, addNamed]
  split
  · exact alikeIfOk_beginOption h _
  · split
    · exact .error _ _
    · exact .map (fun _ _ => h.addOption) none
  · split
    · exact .error _ _
    · split <;> exact .error _ _
  · split <;> exact .error _ _

theorem alikeIfOk_addLetters (h : g.Alike g') (t : Topic) (s : List Char) :
    AlikeIfOk (g.addLetters t s) (g'.addLetters t s) := by
  induction s generalizing g g' with
  | nil =>
    rintro r r' ⟨⟩ ⟨⟩
    exact ⟨h, rfl⟩
  | cons c s ih =>
    rw [addLetters, addLetters]
    cases t.switchLettered? c with
    | none =>
      simp only []
      split
      · exact .error _ _
      · split <;> exact .error _ _
    | some o =>
      simp only []
      split
      · intro r r' hr hr'
        obtain ⟨g₁, hg₁, hr⟩ := bind_eq_ok.1 hr
        obtain ⟨g₁', hg₁', hr'⟩ := bind_eq_ok.1 hr'
        exact ih (h.addOption hg₁ hg₁') r r' hr hr'
      · split
        · rintro r r' ⟨⟩ ⟨⟩
          exact ⟨h, rfl⟩
        · exact .map (fun _ _ => h.addOption) none
        · exact .map (fun _ _ => h.addOption) none

/-- Adds what an argument gives that leads to no other topic and stands in front of two dashes. -/
def addWord (g : Given) (t : Topic) (waiting? : Option Switch) (a : String) :
    Except Stop (Given × Option Switch) :=
  match waiting? with
  | some o =>
    if o.admits a then (g.addOption o a).map (·, none)
    else .error (.refused (.missingValue ("--" ++ o.name)))
  | none => match a.toList with
    | '-' :: '-' :: s => g.addNamed t s
    | ['-'] => (g.addOperand t a).map (·, none)
    | '-' :: s => g.addLetters t s
    | _ => (g.addOperand t a).map (·, none)

theorem alikeIfOk_addWord (h : g.Alike g') (t : Topic) (waiting? : Option Switch) (a : String) :
    AlikeIfOk (g.addWord t waiting? a) (g'.addWord t waiting? a) := by
  cases waiting? with
  | some o =>
    simp only [addWord]
    split
    · exact .map (fun _ _ => h.addOption) none
    · exact .error _ _
  | none =>
    simp only [addWord]
    split
    · exact alikeIfOk_addNamed h t _
    · exact .map (fun _ _ => h.addOperand) none
    · exact alikeIfOk_addLetters h t _
    · exact .map (fun _ _ => h.addOperand) none

end Given

/-! ## Sorting arguments -/

/-- What is given on two paths through the topics. -/
def AlikePaths : List (Topic × Given) → List (Topic × Given) → Prop :=
  List.Forall₂ fun step step' => step'.1 = step.1 ∧ step.2.Alike step'.2

namespace Topic

variable {t : Topic} {waiting? : Option Switch} {g g' : Given}
  {above above' path path' : List (Topic × Given)}

/-- Reading goes on with what an argument adds, unless it leads to another topic or ends the
    options. -/
theorem read_cons {a : String} (rest : List String) (h : waiting? = none →
      t.commands.lookup a = none ∧ ¬(a = "help" ∧ t.commands ≠ []) ∧ a ≠ "--") :
    t.read waiting? g above (a :: rest) = (do
      let r ← g.addWord t waiting? a
      t.read r.2 r.1 above rest) := by
  cases waiting? with
  | some o =>
    rw [read, Given.addWord]
    split
    · cases g.addOption o a <;> rfl
    · rfl
  | none =>
    obtain ⟨hcommand, hhelp, hend⟩ := h rfl
    rw [read, hcommand]
    simp only [if_neg hhelp, Given.addWord]
    split
    -- Reading tells two dashes alone from those in front of a name, so it has one case more.
    · rename_i hchars
      exact absurd (String.toList_injective (hchars.trans (by decide))) hend
    · rename_i hchars
      rw [hchars]
      rfl
    · rename_i hchars
      rw [hchars]
      cases g.addOperand t a <;> rfl
    · rename_i hone hmany hempty hchars
      rw [hchars]
      split
      · rename_i s' heq
        exact absurd (List.cons.inj heq).2 (hmany s')
      · rename_i heq
        exact absurd (List.cons.inj heq).2 hempty
      · rename_i s' _ _ heq
        rw [(List.cons.inj heq).2]
      · rename_i heq
        exact absurd rfl (heq _)
    · rename_i hmany hone hdash
      split
      · rename_i s' heq
        exact absurd heq (hmany s')
      · rename_i heq
        exact absurd heq hone
      · rename_i s' _ _ heq
        exact absurd heq (hdash s')
      · cases g.addOperand t a <;> rfl

/-- No option takes a word for what is shown as its value. -/
theorem not_admits_displayWord {word : String} (hword : word ∈ displayWords) (o : Switch) :
    o.admits word = false := by
  simp only [displayWords, List.mem_cons, List.not_mem_nil, or_false] at hword
  rcases hword with rfl | rfl | rfl | rfl | rfl | rfl <;>
    exact Bool.and_false (decide (o.argument = .integer))

/-- A word for what is shown leads to no other topic and does not end the options. -/
theorem plain_displayWord {word : String} (hword : word ∈ displayWords) (t : Topic) :
    t.commands.lookup word = none ∧ ¬(word = "help" ∧ t.commands ≠ []) ∧ word ≠ "--" := by
  have hplain : ∀ word ∈ displayWords, word ≠ "help" ∧ word ≠ "--" := by decide
  have hlookup : ∀ word ∈ displayWords, t.commands.lookup word = none := by cases t <;> decide
  obtain ⟨hhelp, hend⟩ := hplain word hword
  exact ⟨hlookup word hword, fun h => hhelp h.1, hend⟩

/-- A word for what is shown gives an option for that, at every topic. -/
theorem addWord_displayWord {word : String} (hword : word ∈ displayWords) : ∃ o : Switch,
    o.name ∈ displayOptions ∧ ∀ (g : Given) (t : Topic),
      g.addWord t none word = (g.addOption o "").map (·, none) := by
  simp only [displayWords, List.mem_cons, List.not_mem_nil, or_false] at hword
  rcases hword with rfl | rfl | rfl | rfl | rfl | rfl
  · exact ⟨{ name := "verbose", letter? := some 'v' }, by decide, fun g t => by cases t <;> rfl⟩
  · exact ⟨{ name := "verbose", letter? := some 'v' }, by decide, fun g t => by cases t <;> rfl⟩
  · exact ⟨{ name := "quiet", letter? := some 'q' }, by decide, fun g t => by cases t <;> rfl⟩
  · exact ⟨{ name := "quiet", letter? := some 'q' }, by decide, fun g t => by cases t <;> rfl⟩
  · exact ⟨{ name := "json" }, by decide, fun g t => by cases t <;> rfl⟩
  · exact ⟨{ name := "no-color" }, by decide, fun g t => by cases t <;> rfl⟩

/-- Arguments are sorted alike with flags for what is shown, if they are accepted. -/
theorem read_alike {as as' : List String} (hflagged : Flagged as as') (hg : g.Alike g')
    (habove : AlikePaths above above') (hpath : t.read waiting? g above as = .ok path)
    (hpath' : t.read waiting? g' above' as' = .ok path') : AlikePaths path path' := by
  induction hflagged generalizing t waiting? g g' above above' with
  | nil =>
    cases waiting? with
    | some o => cases hpath
    | none =>
      cases hpath
      cases hpath'
      exact .cons ⟨rfl, hg⟩ habove
  | @keep a as as' hflagged ih =>
    by_cases hword : waiting? = none →
        t.commands.lookup a = none ∧ ¬(a = "help" ∧ t.commands ≠ []) ∧ a ≠ "--"
    · rw [read_cons as hword, bind_eq_ok] at hpath
      rw [read_cons as' hword, bind_eq_ok] at hpath'
      obtain ⟨r, hr, hpath⟩ := hpath
      obtain ⟨r', hr', hpath'⟩ := hpath'
      obtain ⟨halike, hwaiting⟩ := Given.alikeIfOk_addWord hg t waiting? a r r' hr hr'
      rw [hwaiting] at hpath'
      exact ih halike habove hpath hpath'
    · obtain ⟨rfl, hother⟩ := Classical.not_imp.1 hword
      rw [read] at hpath hpath'
      cases hcommand : t.commands.lookup a with
      | some u =>
        rw [hcommand] at hpath hpath'
        have hnext : AlikePaths ((t, g) :: above) ((t, g') :: above') := .cons ⟨rfl, hg⟩ habove
        exact ih (.refl {}) hnext hpath hpath'
      | none =>
        rw [hcommand] at hpath hpath'
        by_cases hhelp : a = "help" ∧ t.commands ≠ []
        · simp only [if_pos hhelp] at hpath
          cases hpath
        · -- The options end here, and what follows are operands.
          have hend : a = "--" := by
            by_contra hne
            exact hother ⟨hcommand, hhelp, hne⟩
          subst hend
          simp only [if_neg hhelp] at hpath hpath'
          obtain ⟨r, hr, hpath⟩ := bind_eq_ok.1 hpath
          obtain ⟨r', hr', hpath'⟩ := bind_eq_ok.1 hpath'
          cases hpath
          cases hpath'
          exact .cons ⟨rfl, hg.foldlM_addOperand hflagged hr hr'⟩ habove
  | @put word hdisplay as as' _ ih =>
    rw [read_cons as' fun _ => plain_displayWord hdisplay t, bind_eq_ok] at hpath'
    obtain ⟨r', hr', hpath'⟩ := hpath'
    cases waiting? with
    | some o =>
      rw [Given.addWord, not_admits_displayWord hdisplay] at hr'
      cases hr'
    | none =>
      obtain ⟨o, ho, hadd⟩ := addWord_displayWord hdisplay
      rw [hadd, map_eq_ok] at hr'
      obtain ⟨g₁', hg₁', rfl⟩ := hr'
      exact ih (hg.addOption_right ho hg₁') habove hpath hpath'

end Topic

/-! ## What is asked for -/

namespace Given.Alike

variable {g g' : Given}

theorem has (h : g.Alike g') {name : String} (hname : name ∉ displayOptions) :
    g'.has name = g.has name :=
  congrArg Option.isSome (h.value? name hname)

theorem required (h : g.Alike g') {name : String} (hname : name ∉ displayOptions) :
    g'.required name = g.required name := by
  rw [Given.required, Given.required, h.value? name hname]

theorem operand (h : g.Alike g') {name value : String} (hvalue : g.operand name = .ok value) :
    g'.operand name = .ok value := by
  rw [Given.operand] at hvalue ⊢
  split at hvalue
  · rename_i heq
    rw [h.operands (by simp [heq]), heq]
    exact hvalue
  · cases hvalue

theorem exclude (h : g.Alike g') {name : String} (hname : name ∉ displayOptions)
    {others : List String} (hothers : ∀ other ∈ others, other ∉ displayOptions) :
    g'.exclude name others = g.exclude name others := by
  have hfind : others.find? g'.has = others.find? g.has :=
    List.find?_congr fun other hother => h.has (hothers other hother)
  rw [Given.exclude, Given.exclude, h.has hname, hfind]

theorem queryOptions (h : g.Alike g') : g'.queryOptions = g.queryOptions := by
  have hinteger (name : String) (hname : name ∉ displayOptions) :
      g'.integer? name = g.integer? name := by
    rw [Given.integer?, Given.integer?, h.value? name hname]
  rw [Given.queryOptions, Given.queryOptions, h.exclude (by decide) (by decide),
    h.required (by decide),
    h.value? "schema" (by decide), h.value? "url" (by decide), h.value? "filter" (by decide),
    hinteger "offset" (by decide), hinteger "limit" (by decide), h.value? "sort" (by decide),
    h.has (by decide), h.has (by decide)]

/-- The same command is given, if there is one. -/
theorem command? (h : g.Alike g') {t : Topic} {c? : Option Command}
    (hc : g.command? t = .ok c?) : g'.command? t = .ok c? := by
  cases t with
  | program | config | configShow | configPath => exact hc
  | configInit =>
    rw [Given.command?, h.has (by decide)]
    exact hc
  | tokens | parse | completions =>
    obtain ⟨value, hvalue, hc⟩ := bind_eq_ok.1 hc
    rw [Given.command?, h.operand hvalue]
    exact hc
  | compile =>
    obtain ⟨value, hvalue, hc⟩ := bind_eq_ok.1 hc
    rw [Given.command?, h.operand hvalue, h.required (by decide),
      h.value? "placeholders" (by decide)]
    exact hc
  | query =>
    rw [Given.command?, h.queryOptions]
    exact hc

end Given.Alike

theorem AlikePaths.any_has {path path' : List (Topic × Given)} (h : AlikePaths path path')
    {name : String} (hname : name ∉ displayOptions) :
    (path'.any fun step => step.2.has name) = path.any fun step => step.2.has name := by
  induction h with
  | nil => rfl
  | cons hstep _ ih => rw [List.any_cons, List.any_cons, hstep.2.has hname, ih]

namespace Invocation

variable {i i' : Invocation} {arguments arguments' : List String}

/-- Where an invocation comes from: the options from the whole path, the command from its end. -/
theorem exists_path_of_read (h : read arguments = .ok i) : ∃ path,
    Topic.program.read none {} [] arguments = .ok path ∧ i.options = .ofPath path ∧
      match path with
      | (topic, g) :: _ => g.command? topic = .ok i.command?
      | [] => i.command? = none := by
  obtain ⟨path, hpath, h⟩ := bind_eq_ok.1 h
  obtain ⟨-, -, h⟩ := bind_eq_ok.1 h
  refine ⟨path, hpath, ?_⟩
  cases path with
  | nil =>
    cases h
    exact ⟨rfl, rfl⟩
  | cons step above =>
    obtain ⟨command?, hcommand, h⟩ := bind_eq_ok.1 h
    cases h
    exact ⟨rfl, mapError_eq_ok.1 hcommand⟩

/-- Flags for what is shown leave the command as it is, and whether filters are read strictly. -/
theorem read_flagged (hflagged : Flagged arguments arguments') (h : read arguments = .ok i)
    (h' : read arguments' = .ok i') :
    i'.command? = i.command? ∧ i'.options.strict = i.options.strict := by
  obtain ⟨path, hpath, hoptions, hcommand⟩ := exists_path_of_read h
  obtain ⟨path', hpath', hoptions', hcommand'⟩ := exists_path_of_read h'
  have halike : AlikePaths path path' :=
    Topic.read_alike hflagged (.refl {}) .nil hpath hpath'
  refine ⟨?_, ?_⟩
  · cases halike with
    | nil => exact hcommand'.trans hcommand.symm
    | @cons step step' _ _ hstep _ =>
      obtain ⟨topic, g⟩ := step
      obtain ⟨topic', g'⟩ := step'
      obtain ⟨rfl, hg⟩ := hstep
      exact Except.ok.inj (hcommand'.symm.trans (hg.command? hcommand))
  · rw [hoptions, hoptions']
    exact halike.any_has (by decide)

end Invocation

/-- Runs that fail. With any files, an accepted command line succeeds or shows nothing but the
    report of its failure, in front of which there may only stand the remark that a table has been
    loaded. With flags put in that only change what is shown, it succeeds or fails for the same
    reason, with the same exit status, and leaves the same files. The report is that of an error,
    unless the rows of a query cannot be sorted. -/
theorem runProgram_flagged (env : Environment) (files : FileTree)
    {arguments arguments' : List String} (hflagged : Flagged arguments arguments')
    {i i' : Invocation} (h : Invocation.read arguments = .ok i)
    (h' : Invocation.read arguments' = .ok i') :
    let run := files.perform (runProgram env arguments)
    let run' := files.perform (runProgram env arguments')
    (∃ failure?, run.1.Tells i.options failure? ∧ run'.1.Tells i'.options failure? ∧
      (run.1.exit = 0 ↔ failure? = none)) ∧
    (run.1.exit = 101 ↔ i.BreaksOff env files) ∧ run'.1.exit = run.1.exit ∧ run'.2 = run.2 := by
  intro run run'
  have hrun : run = files.perform (i.run env) := by
    simp only [run, runProgram, h]
  have hrun' : run' = files.perform (i'.run env) := by
    simp only [run', runProgram, h']
  obtain ⟨hcommand, hstrict⟩ := Invocation.read_flagged hflagged h h'
  obtain ⟨⟨failure?, htells, htells'⟩, hfiles⟩ :=
    Invocation.exists_tells hcommand hstrict env files
  rw [hrun, hrun']
  exact ⟨⟨failure?, htells, htells', htells.exit_eq_zero⟩, Invocation.exit_run_eq_crash_iff,
    htells.exit_eq htells', hfiles.symm⟩

/-- A data file that is missing. -/
theorem runProgram_flagged_missing_file :
    let files : FileTree := .ofFiles ["home"] []
    let env : Environment := { home? := some "/home" }
    let run := files.perform (runProgram env ["query", "-d", "data.json"])
    let run' := files.perform (runProgram env ["-q", "query", "--json", "-d", "data.json"])
    run.1 = ⟨3, "", "Error: I/O error: No such file or directory (os error 2)\n"⟩ ∧
      run'.1.exit = 3 ∧ run'.1.output = "" ∧ run'.2 = files := by
  intro files env run run'
  have hflagged : Flagged ["query", "-d", "data.json"]
      ["-q", "query", "--json", "-d", "data.json"] :=
    .put (by decide) (.keep _ (.put (by decide) (.keep _ (.keep _ .nil))))
  have hrun : run =
      (⟨3, "", "Error: I/O error: No such file or directory (os error 2)\n"⟩, files) := rfl
  have hread : Invocation.read ["query", "-d", "data.json"] =
      .ok ⟨{}, some (.query { data := "data.json" })⟩ := rfl
  have hread' : Invocation.read ["-q", "query", "--json", "-d", "data.json"] =
      .ok ⟨{ quiet := true, json := true }, some (.query { data := "data.json" })⟩ := rfl
  obtain ⟨⟨failure?, -, htells', hexit⟩, -, hsame, hfiles⟩ :=
    runProgram_flagged env files hflagged hread hread'
  have hthree : run.1.exit = 3 := congrArg (·.1.exit) hrun
  have hfails : failure? ≠ none := fun hnone =>
    absurd (hthree.symm.trans (hexit.2 hnone)) (by decide)
  exact ⟨congrArg Prod.fst hrun, hsame.trans hthree, htells'.output_eq hfails,
    hfiles.trans (congrArg Prod.snd hrun)⟩

/-- Files for a query: rows with a cell that is no number, and the type of their column. -/
def unsortableFiles : FileTree :=
  let row (cell : String) := "\x7b\"f\": " ++ cell ++ "\x7d"
  let rows := row "1" :: List.replicate 8 (row "2") ++
    row "\"NaN\"" :: List.replicate 11 (row "3")
  .ofFiles ["home"]
    [("data.json", "[" ++ ", ".intercalate rows ++ "]"), ("schema.toml", "f = \"float\"\n")]

/-- A query for these rows in order crashes, and what it reports is no error. -/
theorem runProgram_breaks_off : ∃ report,
    (unsortableFiles.perform (runProgram { home? := some "/home" }
      ["query", "-d", "data.json", "-s", "schema.toml", "--sort", "f", "--offset", "21"])).1 =
        ⟨101, "", report⟩ ∧
      ∀ (e : CommandError) (json : Bool), report ≠ e.report json := by
  refine ⟨"user-provided comparison function does not correctly implement a total order\n",
    by decide +kernel, fun e json heq => ?_⟩
  have hhead := e.head?_report json
  rw [← heq] at hhead
  cases json <;> cases hhead

end RowQuery
