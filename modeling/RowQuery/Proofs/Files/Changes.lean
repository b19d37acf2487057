import RowQuery.Proofs.Files.Places
import RowQuery.Proofs.Result

/-!
# What operations change

To make directories changes no file, and to write a file changes the file that the path names, and
no other. What has been written is read back. Where nothing is before directories are made there is
no file either, unless the path has steps that lead up.

* `FileTree.grown_makeDirectories`: a tree with directories made;
* `FileTree.write_eq_ok`: a tree with a file written;
* `FileTree.content?_write`, `FileTree.read_write`, `FileTree.find?_write`: what it holds;
* `FileTree.find?_of_content?`: files that are found without the directories made;
* `FileTree.wellFormed_ofFiles`: trees of given files.
-/

namespace RowQuery.FileTree

variable {t t' t'' : FileTree} {path content : String} {target : Target}

/-! ## Directories -/

theorem makeDirectory_eq_ok : t.makeDirectory path = .ok t' ↔ ∃ target, t.target path = .ok target ∧
    t.entry? target.place = none ∧ t' = t.put target.place .directory := by
  rw [makeDirectory, bind_eq_ok]
  refine exists_congr fun target => and_congr_right fun _ => ?_
  cases t.entry? target.place with
  | none => exact ⟨fun h => ⟨rfl, (Except.ok.inj h).symm⟩, fun h => congrArg _ h.2.symm⟩
  | some e => exact ⟨nofun, nofun⟩

theorem ne_nil_of_not_directory {p : Place} (h : t.entry? p ≠ some .directory) : p ≠ [] :=
  fun hp => h (hp ▸ t.entry?_root)

theorem grown_makeDirectory (h : t.makeDirectory path = .ok t') : t.Grown t' := by
  obtain ⟨target, htarget, hnone, rfl⟩ := makeDirectory_eq_ok.1 h
  have hno : t.entry? target.place ≠ some .directory := by rw [hnone]; exact nofun
  refine ⟨rfl, fun p => ?_, fun ht => ?_⟩
  · by_cases hp : p = target.place
    · subst hp
      exact .inr ⟨hnone, entry?_put_self _ (ne_nil_of_not_directory hno)⟩
    · exact .inl (entry?_put_of_ne _ hp)
  · exact ht.put ((parent_of_target ht htarget).resolve_left hno) hno _

theorem grown_ensureDirectory (t : FileTree) (path : String) :
    t.Grown (t.ensureDirectory path).1 := by
  rw [ensureDirectory]
  cases h : t.makeDirectory path with
  | ok t' => exact grown_makeDirectory h
  | error e => exact .refl t

theorem grown_makeAll (t : FileTree) (paths : List String) : t.Grown (t.makeAll paths).1 := by
  induction paths with
  | nil => exact .refl t
  | cons path above ih =>
    rw [makeAll]
    split
    · cases habove : t.makeAll above with
      | mk made r =>
        rw [habove] at ih
        cases r with
        | ok _ => exact ih.trans (made.grown_ensureDirectory path)
        | error e => exact ih
    · exact t.grown_ensureDirectory path

/-- A tree with directories made. -/
theorem grown_makeDirectories (t : FileTree) (path : String) : t.Grown (t.makeDirectories path).1 :=
  t.grown_makeAll _

/-! ## Files -/

/-- A tree with a file written. -/
theorem write_eq_ok : t.write path content = .ok t' ↔ ∃ target, t.target path = .ok target ∧
    target.asDirectory = false ∧ t.entry? target.place ≠ some .directory ∧
    t' = t.put target.place (.file content) := by
  rw [write, bind_eq_ok]
  refine exists_congr fun target => and_congr_right fun _ => ?_
  rcases t.entry? target.place with _ | (_ | _)
  · cases target.asDirectory with
    | true => exact ⟨nofun, nofun⟩
    | false => exact ⟨fun h => ⟨rfl, nofun, (Except.ok.inj h).symm⟩, fun h => congrArg _ h.2.2.symm⟩
  · cases target.asDirectory with
    | true => exact ⟨nofun, nofun⟩
    | false => exact ⟨fun h => ⟨rfl, nofun, (Except.ok.inj h).symm⟩, fun h => congrArg _ h.2.2.symm⟩
  · exact ⟨nofun, fun h => absurd rfl h.2.1⟩

theorem working_write (h : t.write path content = .ok t') : t'.working = t.working := by
  obtain ⟨target, -, -, -, rfl⟩ := write_eq_ok.1 h
  rfl

theorem WellFormed.write (ht : t.WellFormed) (h : t.write path content = .ok t') :
    t'.WellFormed := by
  obtain ⟨target, htarget, -, hno, rfl⟩ := write_eq_ok.1 h
  exact ht.put ((parent_of_target ht htarget).resolve_left hno) hno _

/-- Writing changes the content of the file that the path names. -/
theorem content?_write (h : t.write path content = .ok t') :
    t'.content? (t.place path) = some content := by
  obtain ⟨target, htarget, -, hno, rfl⟩ := write_eq_ok.1 h
  rw [← place_of_target htarget]
  exact content?_put_file content (ne_nil_of_not_directory hno)

/-- Writing keeps the content of every other file. -/
theorem content?_write_of_ne (h : t.write path content = .ok t') {p : Place}
    (hp : p ≠ t.place path) : t'.content? p = t.content? p := by
  obtain ⟨target, htarget, -, -, rfl⟩ := write_eq_ok.1 h
  rw [← place_of_target htarget] at hp
  exact content?_put_of_ne _ hp

/-- What has been written is read back. -/
theorem read_write (h : t.write path content = .ok t') : t'.read path = .ok content := by
  obtain ⟨target, htarget, hfile, hno, rfl⟩ := write_eq_ok.1 h
  rw [read, target_put htarget hfile hno]
  simp only [bind, Except.bind, entry?_put_self _ (ne_nil_of_not_directory hno), hfile]
  rfl

/-- A file that has been written is found. -/
theorem find?_write (h : t.write path content = .ok t') :
    t'.find? path = some (.file content) := by
  obtain ⟨target, htarget, hfile, hno, rfl⟩ := write_eq_ok.1 h
  rw [find?, target_put htarget hfile hno]
  simp only [entry?_put_self _ (ne_nil_of_not_directory hno), hfile]
  rfl

/-- A file that a path without steps up names is found, if it can be written once directories have
    been made. -/
theorem find?_of_content? (ht : t.WellFormed) (hgrown : t.Grown t')
    (hwrite : t'.write path content = .ok t'') (hup : ".." ∉ Path.steps path) {old : String}
    (hold : t.content? (t.place path) = some old) : t.find? path = some (.file old) := by
  obtain ⟨target, htarget, hfile, -, -⟩ := write_eq_ok.1 hwrite
  obtain ⟨hpath, hleads⟩ := target_eq_ok.1 htarget
  have hentry : t.entry? (t.place path) = some (.file old) := by
    rw [content?] at hold
    split at hold
    · rename_i hentry
      rw [hentry, Option.some.inj hold]
    · cases hold
  rw [hgrown.working] at hleads
  have hleads' := hleads.of_grown ht hgrown hup hentry hfile
  have htarget' : t.target path = .ok target := target_eq_ok.2 ⟨hpath, hleads'⟩
  rw [find?, htarget']
  simp only [place_of_target htarget', hentry, hfile]
  rfl

/-! ## Trees of given files -/

theorem WellFormed.addFile (ht : t.WellFormed) (path content : String) :
    (t.addFile path content).WellFormed := by
  have hmade : ∀ directory?, (match directory? with
      | some directory => (t.makeDirectories directory).1
      | none => t).WellFormed := by
    rintro (_ | directory)
    · exact ht
    · exact (t.grown_makeDirectories directory).wellFormed ht
  rw [FileTree.addFile]
  split
  · exact (hmade _).write ‹_›
  · exact hmade _

/-- The directories on the way to a working directory. -/
theorem wellFormed_bare (working : Place) :
    WellFormed ⟨fun p => if p <+: working then some .directory else none, working⟩ := by
  have hentry : ∀ p, entry? ⟨fun p => if p <+: working then some .directory else none, working⟩ p =
      if p <+: working then some .directory else none := by
    intro p
    unfold entry?
    split
    · rename_i hroot
      rw [hroot, if_pos (List.nil_prefix)]
    · rfl
  refine ⟨fun p name hsome => ?_, (hentry _).trans (if_pos (List.prefix_refl working))⟩
  rw [hentry] at hsome ⊢
  split at hsome
  · rename_i hprefix
    exact if_pos ((List.prefix_append p [name]).trans hprefix)
  · exact absurd rfl hsome

/-- A tree of given files. -/
theorem wellFormed_ofFiles (working : Place) (files : List (String × String)) :
    (ofFiles working files).WellFormed := by
  have hfold : ∀ t : FileTree, t.WellFormed →
      (files.foldl (fun t f => t.addFile f.1 f.2) t).WellFormed := by
    induction files with
    | nil => exact fun _ ht => ht
    | cons f files ih => exact fun t ht => ih _ (ht.addFile f.1 f.2)
  exact hfold _ (wellFormed_bare working)

end RowQuery.FileTree
