import RowQuery.Command.Config
import RowQuery.Files.Tree

/-!
# Actions on files in memory

An action is followed step by step on files in memory: it begins with some use of files, with a
result that may be missing, or with something written, and goes on from there unless it has failed.
A command writes its result to standard output last, behind everything that may fail. So of most
actions it can be said what their failures are, and that they have written nothing if they fail.

* `FileTree.act_bind`: actions one behind the other;
* `Speaks`: actions that do nothing but write to the streams, and cannot fail;
* `Coupled`: two actions that use the same files in the same way, and fail for the same reason;
* `FailsWith`: actions that have written nothing if they fail.
-/

namespace RowQuery

namespace FileTree

/-- What is done to files in memory: the result, and the files after it. -/
def perform {α : Type} (files : FileTree) (x : StateM FileTree α) : α × FileTree :=
  x.run files

theorem perform_bind {α β : Type} (files : FileTree) (x : StateM FileTree α)
    (f : α → StateM FileTree β) :
    files.perform (x >>= f) = (files.perform x).2.perform (f (files.perform x).1) :=
  rfl

/-- What an action does on files in memory, behind what has been written before: its result, what
    has been written after it, and the files after it. -/
def act {α : Type} (files : FileTree) (s : Streams) (x : Action (StateM FileTree) α) :
    (Except Failure α × Streams) × FileTree :=
  files.perform (x.run.run s)

variable {α β : Type} (files : FileTree) (s : Streams)

/-- The second action goes on where the first has come to, unless this fails. -/
theorem act_bind (x : Action (StateM FileTree) α) (f : α → Action (StateM FileTree) β) :
    files.act s (x >>= f) = match files.act s x with
      | ((.ok a, t), after) => after.act t (f a)
      | ((.error e, t), after) => ((.error e, t), after) := by
  -- What comes next is chosen by the result, and takes up the streams in any case.
  show files.perform (x.run.run s >>= fun r => (ExceptT.bindCont f r.1).run r.2) = _
  rw [perform_bind, act]
  rcases files.perform (x.run.run s) with ⟨⟨_ | a, t⟩, after⟩ <;> rfl

theorem act_files (x : StateM FileTree α) :
    files.act s (.files x) = ((.ok (files.perform x).1, s), (files.perform x).2) :=
  rfl

theorem act_ofExcept (r : Except Failure α) : files.act s (.ofExcept r) = ((r, s), files) :=
  rfl

end FileTree

/-! ## Writing to the streams -/

/-- An action that does nothing but write to the streams. -/
def Speaks (x : Action (StateM FileTree) Unit) : Prop :=
  ∀ (files : FileTree) (s : Streams), ∃ t, files.act s x = ((.ok (), t), files)

namespace Speaks

variable {x y : Action (StateM FileTree) Unit}

/-- What only writes to the streams does not fail. -/
theorem ok (hx : Speaks x) (files : FileTree) (s : Streams) : (files.act s x).1.1 = .ok () := by
  obtain ⟨t, ht⟩ := hx files s
  rw [ht]

theorem print {text : String} : Speaks (.print text) :=
  fun _ _ => ⟨_, rfl⟩

theorem nothing : Speaks (pure ()) :=
  fun _ s => ⟨s, rfl⟩

theorem seq (hx : Speaks x) (hy : Speaks y) : Speaks (x >>= fun _ => y) := by
  intro files s
  obtain ⟨t, ht⟩ := hx files s
  rw [FileTree.act_bind, ht]
  exact hy files t

theorem display {ctx : Context} {json : Json} {text : List Char} :
    Speaks (ctx.display json text) := by
  rw [Context.display]
  split
  · exact .print
  · split
    · exact .nothing
    · exact .print

theorem remark {ctx : Context} {text : String} : Speaks (ctx.remark text) := by
  rw [Context.remark]
  split
  · exact fun _ _ => ⟨_, rfl⟩
  · exact .nothing

end Speaks

/-! ## Two actions -/

/-- Two results are both there, or are missing for the same reason. -/
inductive SameFault {ε α β : Type} : Except ε α → Except ε β → Prop
  | ok (a : α) (b : β) : SameFault (.ok a) (.ok b)
  | error (e : ε) : SameFault (.error e) (.error e)

/-- From the same files, two actions come to the same files, and both succeed or fail for the same
    reason. -/
def Coupled {α β : Type} (x : Action (StateM FileTree) α) (y : Action (StateM FileTree) β) : Prop :=
  -- The streams are apart, since one action may have remarked what the other keeps to itself.
  ∀ (files : FileTree) (s t : Streams),
    SameFault (files.act s x).1.1 (files.act t y).1.1 ∧ (files.act s x).2 = (files.act t y).2

namespace Coupled

variable {α β γ : Type} {f : α → Action (StateM FileTree) β} {g : α → Action (StateM FileTree) γ}

/-- After the same use of files. -/
theorem files (x : StateM FileTree α) (h : ∀ a, Coupled (f a) (g a)) :
    Coupled (.files x >>= f) (.files x >>= g) := by
  intro files s t
  simp only [FileTree.act_bind, FileTree.act_files]
  exact h _ _ s t

/-- After the same result. -/
theorem ofExcept (r : Except Failure α) (h : ∀ a, Coupled (f a) (g a)) :
    Coupled (.ofExcept r >>= f) (.ofExcept r >>= g) := by
  intro files s t
  simp only [FileTree.act_bind, FileTree.act_ofExcept]
  cases r with
  | ok a => exact h a files s t
  | error e => exact ⟨.error e, rfl⟩

theorem of_speaks {x y : Action (StateM FileTree) Unit} (hx : Speaks x) (hy : Speaks y) :
    Coupled x y := by
  intro files s t
  obtain ⟨s', hs⟩ := hx files s
  obtain ⟨t', ht⟩ := hy files t
  rw [hs, ht]
  exact ⟨.ok () (), rfl⟩

/-- After actions that only write to the streams. -/
theorem after_speaking {x y : Action (StateM FileTree) Unit} (hx : Speaks x) (hy : Speaks y)
    {f : Action (StateM FileTree) β} {g : Action (StateM FileTree) γ} (h : Coupled f g) :
    Coupled (x >>= fun _ => f) (y >>= fun _ => g) := by
  intro files s t
  obtain ⟨s', hs⟩ := hx files s
  obtain ⟨t', ht⟩ := hy files t
  rw [FileTree.act_bind, FileTree.act_bind, hs, ht]
  exact h files s' t'

end Coupled

/-! ## Failing actions -/

/-- If an action fails, its failure is of a kind, and it has written nothing. -/
def FailsWith {α : Type} (kind : Failure → Prop) (x : Action (StateM FileTree) α) : Prop :=
  ∀ (files : FileTree) (s : Streams) (f : Failure), (files.act s x).1.1 = .error f →
    kind f ∧ (files.act s x).1.2 = s

/-- A failure that is an error and no crash. -/
def Failure.IsError (f : Failure) : Prop :=
  ∃ e, f = .error e

namespace FailsWith

variable {α β : Type} {kind : Failure → Prop} {f : α → Action (StateM FileTree) β}

theorem files (x : StateM FileTree α) (h : ∀ a, FailsWith kind (f a)) :
    FailsWith kind (.files x >>= f) := by
  intro files s e he
  rw [FileTree.act_bind, FileTree.act_files] at he ⊢
  exact h _ _ s e he

theorem ofExcept {r : Except Failure α} (hr : ∀ e, r = .error e → kind e)
    (h : ∀ a, FailsWith kind (f a)) : FailsWith kind (.ofExcept r >>= f) := by
  intro files s e he
  rw [FileTree.act_bind, FileTree.act_ofExcept] at he ⊢
  cases r with
  | ok a => exact h a files s e he
  | error e' =>
    cases he
    exact ⟨hr e rfl, rfl⟩

theorem ofResult (r : Except CommandError α) (h : ∀ a, FailsWith Failure.IsError (f a)) :
    FailsWith Failure.IsError (.ofResult r >>= f) := by
  refine .ofExcept (fun e he => ?_) h
  cases r with
  | ok a => cases he
  | error e' =>
    cases he
    exact ⟨e', rfl⟩

/-- What only writes to the streams does not fail. -/
theorem of_speaks {x : Action (StateM FileTree) Unit} (hx : Speaks x) : FailsWith kind x := by
  intro files s e he
  obtain ⟨t, ht⟩ := hx files s
  rw [ht] at he
  cases he

end FailsWith

end RowQuery
