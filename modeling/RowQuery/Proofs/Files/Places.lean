import RowQuery.Files.Tree

/-!
# Where paths lead

The place to which a path leads follows from its steps alone: a tree only decides whether one gets
there. In a tree where everything stands in a directory, one gets to the place of every file, unless
the path has steps that lead up: `missing/../file` names a file, but does not lead there as long as
there is no directory `missing`.

* `FileTree.follow_eq_ok`: the ways on which steps are followed;
* `FileTree.place_of_target`: the place to which a path leads;
* `FileTree.Leads.parent`: what is at that place, or above it;
* `FileTree.Leads.put`, `FileTree.Leads.of_grown`: the same way in another tree.
-/

namespace RowQuery

/-- One step from a place. -/
def Path.walk (here : Place) (step : String) : Place :=
  if step = "" ∨ step = "." then here
  else if step = ".." then here.dropLast
  else here ++ [step]

/-- Whether a step is a name that something can have. -/
structure Path.IsName (step : String) : Prop where
  not_idle : ¬(step = "" ∨ step = ".")
  not_up : step ≠ ".."
  length_le : Text.byteLength step.toList ≤ FileTree.maxName

theorem Path.walk_of_isName {here : Place} {step : String} (h : IsName step) :
    walk here step = here ++ [step] := by
  rw [walk, if_neg h.not_idle, if_neg h.not_up]

namespace FileTree

open RowQuery.Path (walk IsName)

/-- The place that a path names. -/
def place (t : FileTree) (path : String) : Place :=
  (Path.steps path).foldl walk (if Path.isAbsolute path then [] else t.working)

/-- How steps from a directory lead to a target. -/
inductive Leads (t : FileTree) : Place → List String → Target → Prop
  | done (here : Place) : Leads t here [] ⟨here, true⟩
  | idle {here : Place} {step : String} {rest : List String} {target : Target}
      (h : step = "" ∨ step = ".") (hrest : Leads t here rest target) :
      Leads t here (step :: rest) target
  | up {here : Place} {rest : List String} {target : Target}
      (hrest : Leads t here.dropLast rest target) : Leads t here (".." :: rest) target
  /-- The last step leads to a place, whatever is there. -/
  | last {here : Place} {name : String} (h : IsName name) :
      Leads t here [name] ⟨here ++ [name], false⟩
  /-- A step with nothing but slashes behind it leads to a place where nothing is. -/
  | slashes {here : Place} {name : String} {rest : List String} (h : IsName name)
      (hrest : rest ≠ []) (hidle : ∀ step ∈ rest, step = "")
      (hnone : t.entry? (here ++ [name]) = none) :
      Leads t here (name :: rest) ⟨here ++ [name], true⟩
  | into {here : Place} {name : String} {rest : List String} {target : Target} (h : IsName name)
      (hne : rest ≠ []) (hdirectory : t.entry? (here ++ [name]) = some .directory)
      (hrest : Leads t (here ++ [name]) rest target) : Leads t here (name :: rest) target

variable {t t' : FileTree} {here p : Place} {steps : List String} {path : String}
  {target : Target} {e : Entry}

theorem leads_of_follow (h : t.follow here steps = .ok target) : t.Leads here steps target := by
  induction steps generalizing here with
  | nil =>
    cases h
    exact .done here
  | cons step rest ih =>
    rw [follow] at h
    by_cases hidle : step = "" ∨ step = "."
    · rw [if_pos hidle] at h
      exact .idle hidle (ih h)
    rw [if_neg hidle] at h
    by_cases hup : step = ".."
    · rw [if_pos hup] at h
      exact hup ▸ .up (ih h)
    rw [if_neg hup] at h
    by_cases hlong : maxName < Text.byteLength step.toList
    · rw [if_pos hlong] at h
      cases h
    rw [if_neg hlong] at h
    have hname : IsName step := ⟨hidle, hup, Nat.not_lt.1 hlong⟩
    by_cases hlast : rest = []
    · rw [if_pos hlast] at h
      cases h
      subst hlast
      exact .last hname
    rw [if_neg hlast] at h
    cases hentry : t.entry? (here ++ [step]) with
    | none =>
      simp only [hentry] at h
      split at h
      · rename_i hslashes
        cases h
        exact .slashes hname hlast
          (fun s hs => of_decide_eq_true (List.all_eq_true.1 hslashes s hs)) hentry
      · cases h
    | some entry =>
      simp only [hentry] at h
      cases entry with
      | file content => cases h
      | directory => exact .into hname hlast hentry (ih h)

theorem follow_of_leads (h : t.Leads here steps target) : t.follow here steps = .ok target := by
  induction h with
  | done here => rfl
  | idle h _ ih => rw [follow, if_pos h, ih]
  | up _ ih => exact ih
  | last h =>
    rw [follow, if_neg h.not_idle, if_neg h.not_up, if_neg (Nat.not_lt.2 h.length_le)]
    rfl
  | slashes h hrest hidle hnone =>
    rw [follow, if_neg h.not_idle, if_neg h.not_up, if_neg (Nat.not_lt.2 h.length_le)]
    simp only [if_neg hrest, hnone]
    exact if_pos (List.all_eq_true.2 fun s hs => decide_eq_true (hidle s hs))
  | into h hne hdirectory _ ih =>
    rw [follow, if_neg h.not_idle, if_neg h.not_up, if_neg (Nat.not_lt.2 h.length_le)]
    simp only [if_neg hne, hdirectory, ih]

/-- Following steps is to be led by them. -/
theorem follow_eq_ok : t.follow here steps = .ok target ↔ t.Leads here steps target :=
  ⟨leads_of_follow, follow_of_leads⟩

/-! ## The place of a target -/

theorem foldl_walk_of_idle {rest : List String} (h : ∀ step ∈ rest, step = "") (here : Place) :
    rest.foldl walk here = here := by
  induction rest with
  | nil => rfl
  | cons step rest ih =>
    obtain ⟨rfl, hrest⟩ := List.forall_mem_cons.1 h
    exact ih hrest

/-- Steps lead to the place that they name. -/
theorem Leads.place_eq (h : t.Leads here steps target) : target.place = steps.foldl walk here := by
  induction h with
  | done here => rfl
  | @idle here step rest target h _ ih =>
    rw [List.foldl_cons, walk, if_pos h]
    exact ih
  | up _ ih => exact ih
  | last h => exact (Path.walk_of_isName h).symm
  | slashes h _ hidle _ => rw [List.foldl_cons, Path.walk_of_isName h, foldl_walk_of_idle hidle]
  | into h _ _ _ ih => rw [List.foldl_cons, Path.walk_of_isName h, ih]

/-- The way on which a path leads to its target. -/
theorem target_eq_ok : t.target path = .ok target ↔
    (path ≠ "" ∧ Text.byteLength path.toList ≤ maxPath) ∧
      t.Leads (if Path.isAbsolute path then [] else t.working) (Path.steps path) target := by
  rw [FileTree.target, ← follow_eq_ok]
  by_cases hempty : path = ""
  · simp [hempty]
  · by_cases hlong : maxPath < Text.byteLength path.toList
    · rw [if_neg hempty, if_pos hlong]
      exact ⟨nofun, fun h => absurd h.1.2 (Nat.not_le.2 hlong)⟩
    · rw [if_neg hempty, if_neg hlong]
      exact (and_iff_right ⟨hempty, Nat.not_lt.1 hlong⟩).symm

/-- A path leads to the place that it names. -/
theorem place_of_target (h : t.target path = .ok target) : target.place = t.place path :=
  (target_eq_ok.1 h).2.place_eq

/-! ## Trees in which everything stands in a directory -/

/-- Whether everything in a tree stands in a directory, and the working directory is one. -/
structure WellFormed (t : FileTree) : Prop where
  parent : ∀ p name, t.entry? (p ++ [name]) ≠ none → t.entry? p = some .directory
  working : t.entry? t.working = some .directory

theorem entry?_root (t : FileTree) : t.entry? [] = some .directory :=
  rfl

namespace WellFormed

/-- Above a directory are directories. -/
theorem dropLast (ht : t.WellFormed) (h : t.entry? p = some .directory) :
    t.entry? p.dropLast = some .directory := by
  rcases List.eq_nil_or_concat p with rfl | ⟨q, name, rfl⟩
  · exact h
  · rw [List.concat_eq_append] at h ⊢
    rw [List.dropLast_concat]
    exact ht.parent q name (by rw [h]; exact nofun)

/-- Above anything is a directory. -/
theorem directory_of_prefix (ht : t.WellFormed) {names : List String} (hne : names ≠ [])
    (h : t.entry? (p ++ names) ≠ none) : t.entry? p = some .directory := by
  induction names generalizing p with
  | nil => exact absurd rfl hne
  | cons name names ih =>
    refine ht.parent p name ?_
    cases names with
    | nil => exact h
    | cons name' names =>
      rw [ih (List.cons_ne_nil _ _) (by rwa [List.append_assoc, List.singleton_append])]
      exact nofun

end WellFormed

/-- What is at a target: a directory, or anything or nothing in a directory. -/
theorem Leads.parent (ht : t.WellFormed) (hhere : t.entry? here = some .directory)
    (h : t.Leads here steps target) : t.entry? target.place = some .directory ∨
      ∃ p name, target.place = p ++ [name] ∧ t.entry? p = some .directory := by
  induction h with
  | done here => exact .inl hhere
  | idle _ _ ih => exact ih hhere
  | up _ ih => exact ih (ht.dropLast hhere)
  | last _ => exact .inr ⟨_, _, rfl, hhere⟩
  | slashes => exact .inr ⟨_, _, rfl, hhere⟩
  | into _ _ hdirectory _ ih => exact ih hdirectory

theorem parent_of_target (ht : t.WellFormed) (h : t.target path = .ok target) :
    t.entry? target.place = some .directory ∨
      ∃ p name, target.place = p ++ [name] ∧ t.entry? p = some .directory := by
  refine (target_eq_ok.1 h).2.parent ht ?_
  split
  · exact t.entry?_root
  · exact ht.working

/-! ## The same way in another tree -/

theorem entry?_put_of_ne {q : Place} (e : Entry) (h : q ≠ p) :
    entry? (t.put p e) q = t.entry? q := by
  simp [put, entry?, h]

theorem entry?_put_self (e : Entry) (h : p ≠ []) : entry? (t.put p e) p = some e := by
  simp [put, entry?, h]

/-- Where there is no directory, nothing that is put there is on the way to a file. -/
theorem Leads.put (h : t.Leads here steps target) (hfile : target.asDirectory = false)
    (hp : t.entry? p ≠ some .directory) (e : Entry) : (t.put p e).Leads here steps target := by
  induction h with
  | done here => cases hfile
  | idle h _ ih => exact .idle h (ih hfile)
  | up _ ih => exact .up (ih hfile)
  | last h => exact .last h
  | slashes => cases hfile
  | @into here name _ _ h hne hdirectory _ ih =>
    have hother : here ++ [name] ≠ p := fun hsame => hp (hsame ▸ hdirectory)
    exact .into h hne (by rw [entry?_put_of_ne e hother, hdirectory]) (ih hfile)

theorem target_put (h : t.target path = .ok target) (hfile : target.asDirectory = false)
    (hp : t.entry? p ≠ some .directory) (e : Entry) : (t.put p e).target path = .ok target := by
  obtain ⟨hpath, hleads⟩ := target_eq_ok.1 h
  exact target_eq_ok.2 ⟨hpath, hleads.put hfile hp e⟩

/-- What is put into a directory, but not in place of one, leaves a tree well-formed. -/
theorem WellFormed.put (ht : t.WellFormed)
    (hparent : ∃ q name, p = q ++ [name] ∧ t.entry? q = some .directory)
    (hp : t.entry? p ≠ some .directory) (e : Entry) : (t.put p e).WellFormed := by
  have hworking : t.working ≠ p := fun h => hp (h ▸ ht.working)
  refine ⟨fun q name hsome => ?_, (entry?_put_of_ne e hworking).trans ht.working⟩
  have hq : t.entry? q = some .directory := by
    by_cases hsame : q ++ [name] = p
    · obtain ⟨q', name', rfl, hdirectory⟩ := hparent
      rwa [(List.append_inj' hsame rfl).1]
    · exact ht.parent q name (by rwa [entry?_put_of_ne e hsame] at hsome)
  have hother : q ≠ p := fun hsame => hp (hsame ▸ hq)
  rw [entry?_put_of_ne e hother, hq]

/-- Whether a tree has what another has, and directories besides. -/
structure Grown (t t' : FileTree) : Prop where
  working : t'.working = t.working
  entry : ∀ p, t'.entry? p = t.entry? p ∨ t.entry? p = none ∧ t'.entry? p = some .directory
  wellFormed : t.WellFormed → t'.WellFormed

namespace Grown

theorem refl (t : FileTree) : t.Grown t :=
  ⟨rfl, fun _ => .inl rfl, id⟩

theorem trans {t'' : FileTree} (h : t.Grown t') (h' : t'.Grown t'') : t.Grown t'' where
  working := h'.working.trans h.working
  entry p := by
    rcases h.entry p with hp | ⟨hnone, hp⟩
    · rw [← hp]
      exact h'.entry p
    · rcases h'.entry p with hp' | ⟨hp', -⟩
      · exact .inr ⟨hnone, hp'.trans hp⟩
      · rw [hp] at hp'
        cases hp'
  wellFormed := h'.wellFormed ∘ h.wellFormed

/-- No file is changed. -/
theorem content?_eq (h : t.Grown t') (p : Place) : t'.content? p = t.content? p := by
  rw [content?, content?]
  rcases h.entry p with hp | ⟨hnone, hp⟩
  · rw [hp]
  · rw [hp, hnone]

theorem place_eq (h : t.Grown t') (path : String) : t'.place path = t.place path := by
  rw [place, place, h.working]

end Grown

/-- Steps that do not lead up lead below the directory where they begin. -/
theorem prefix_foldl_walk (hup : ".." ∉ steps) (here : Place) : here <+: steps.foldl walk here := by
  induction steps generalizing here with
  | nil => exact List.prefix_refl here
  | cons step rest ih =>
    have hstep : step ≠ ".." := fun h => hup (h ▸ List.mem_cons_self)
    refine List.IsPrefix.trans ?_ (ih (fun hmem => hup (List.mem_cons_of_mem step hmem)) _)
    rw [walk, if_neg hstep]
    split
    · exact List.prefix_refl here
    · exact List.prefix_append here [step]

/-- Steps that do not lead up lead to a file that is there even without the directories that have
    been made. -/
theorem Leads.of_grown (ht : t.WellFormed) (hgrown : t.Grown t') (hup : ".." ∉ steps)
    {content : String} (hentry : t.entry? (steps.foldl walk here) = some (.file content))
    (h : t'.Leads here steps target) (hfile : target.asDirectory = false) :
    t.Leads here steps target := by
  induction h with
  | done here => cases hfile
  | @idle here step rest target hstep hrest ih =>
    rw [List.foldl_cons, walk, if_pos hstep] at hentry
    exact .idle hstep (ih (fun hmem => hup (List.mem_cons_of_mem _ hmem)) hentry hfile)
  | up => exact absurd List.mem_cons_self hup
  | last h => exact .last h
  | slashes => cases hfile
  | @into here name rest target h hne hdirectory hrest ih =>
    have hup' : ".." ∉ rest := fun hmem => hup (List.mem_cons_of_mem _ hmem)
    rw [List.foldl_cons, Path.walk_of_isName h] at hentry
    refine .into h hne ?_ (ih hup' hentry hfile)
    obtain ⟨names, hnames⟩ := prefix_foldl_walk hup' (here ++ [name])
    rw [← hnames] at hentry
    cases names with
    | nil =>
      -- The file would stand where a directory is, and no file is replaced by a directory.
      rw [List.append_nil] at hentry
      rcases hgrown.entry (here ++ [name]) with hsame | ⟨hnone, -⟩
      · rw [hsame, hentry] at hdirectory
        cases hdirectory
      · rw [hnone] at hentry
        cases hentry
    | cons name' names =>
      refine ht.directory_of_prefix (List.cons_ne_nil name' names) ?_
      rw [hentry]
      exact nofun

end FileTree

end RowQuery
