import Stencil.Disk

/-!
# Runs in memory, whatever the log

A run that may fail starts from a file tree and a log.  `Yields` says which answer it gives and
which tree it leaves, for every log that it may add to, so runs can be put together without speaking
of the log.
-/

namespace Stencil.InMemory

variable {ε δ α β : Type}

/-- The answer of a run. -/
def answer (run : ExceptT ε InMemory α) (session : Session) : Except ε α := (run.run.run session).1

/-- The files after a run. -/
def treeAfter (run : ExceptT ε InMemory α) (session : Session) : FileTree :=
  (run.run.run session).2.tree

/-- From a tree a run gives an answer and leaves a tree, whatever log it adds to. -/
def Yields (run : ExceptT ε InMemory α) (tree : FileTree) (answer : Except ε α)
    (after : FileTree) : Prop :=
  ∀ log, ∃ later, run.run.run ⟨tree, log⟩ = (answer, ⟨after, later⟩)

variable {run : ExceptT ε InMemory α} {tree middle after : FileTree}

section Session

variable {given : Except ε α} {session : Session}

theorem Yields.answer_eq (yields : Yields run session.tree given after) :
    answer run session = given := by
  obtain ⟨later, ran⟩ := yields session.log
  exact congrArg Prod.fst ran

theorem Yields.treeAfter_eq (yields : Yields run session.tree given after) :
    treeAfter run session = after := by
  obtain ⟨later, ran⟩ := yields session.log
  exact congrArg (fun result => result.2.tree) ran

end Session

/-! ## Putting runs together -/

/-- The second run starts from what the first one left. -/
theorem run_bind (run : ExceptT ε InMemory α) (next : α → ExceptT ε InMemory β)
    (session : Session) :
    (run >>= next).run.run session =
      match run.run.run session with
      | (.ok value, left) => (next value).run.run left
      | (.error error, left) => (.error error, left) := by
  change (match run.run.run session with
    | (given, left) => (ExceptT.bindCont next given : InMemory (Except ε β)).run left) = _
  rcases run.run.run session with ⟨given, left⟩
  cases given <;> rfl

theorem yields_pure (value : α) :
    Yields (pure value : ExceptT ε InMemory α) tree (.ok value) tree :=
  fun log => ⟨log, rfl⟩

theorem yields_throw (error : ε) :
    Yields (throw error : ExceptT ε InMemory α) tree (.error error) tree :=
  fun log => ⟨log, rfl⟩

theorem Yields.bind {value : α} {next : α → ExceptT ε InMemory β} {given : Except ε β}
    (first : Yields run tree (.ok value) middle) (second : Yields (next value) middle given after) :
    Yields (run >>= next) tree given after := by
  intro log
  obtain ⟨between, first_ran⟩ := first log
  obtain ⟨later, second_ran⟩ := second between
  exact ⟨later, by rw [run_bind, first_ran]; exact second_ran⟩

theorem Yields.stop {error : ε} (first : Yields run tree (.error error) after)
    (next : α → ExceptT ε InMemory β) : Yields (run >>= next) tree (.error error) after := by
  intro log
  obtain ⟨later, ran⟩ := first log
  exact ⟨later, by rw [run_bind, ran]⟩

/-- A run whose failure is looked at does not fail itself. -/
theorem Yields.attempt {given : Except ε α} (yields : Yields run tree given after) :
    Yields (liftM run.run : ExceptT δ InMemory (Except ε α)) tree (.ok given) after := by
  intro log
  obtain ⟨later, ran⟩ := yields log
  refine ⟨later, ?_⟩
  change (match run.run.run ⟨tree, log⟩ with | (value, left) => (Except.ok value, left)) = _
  rw [ran]

/-! ## Single effects -/

theorem yields_read (path : Path) :
    Yields (Disk.read path : ExceptT ε InMemory _) tree (.ok (tree.read path)) tree :=
  fun log => ⟨log, rfl⟩

theorem yields_has (path : Path) :
    Yields (Disk.has path : ExceptT ε InMemory _) tree (.ok (tree.has path)) tree :=
  fun log => ⟨log, rfl⟩

theorem yields_makeDirectories (path : Path) :
    Yields (Disk.makeDirectories path : ExceptT ε InMemory _) tree
      (.ok (tree.makeDirectories path).2) (tree.makeDirectories path).1 :=
  fun log => ⟨log, rfl⟩

theorem yields_write (tree : FileTree) (path : Path) (text : Text) :
    Yields (Disk.write path text : ExceptT ε InMemory _) tree
      (.ok ((tree.write path text).map fun _ => ()))
      (match tree.write path text with
        | .ok made => made
        | .error _ => tree) := by
  intro log
  refine ⟨log, ?_⟩
  change (match (match tree.write path text with
    | .ok made => (Except.ok (), Session.mk made log)
    | .error error => (.error error, ⟨tree, log⟩)) with
    | (value, left) => (Except.ok value, left)) = _
  cases tree.write path text <;> rfl

theorem yields_note (record : Record) :
    Yields (Disk.note record : ExceptT ε InMemory _) tree (.ok ()) tree :=
  fun log => ⟨log ++ [record], rfl⟩

/-- What is noted first does not matter. -/
theorem Yields.noted {given : Except ε α} (yields : Yields run tree given after) (record : Record)
    (condition : Prop) [Decidable condition] :
    Yields (if condition then Disk.note record >>= fun _ => run else run) tree given after := by
  split
  · exact (yields_note record).bind yields
  · exact yields

theorem yields_noteAll (records : List Record) :
    Yields (Disk.noteAll records : ExceptT ε InMemory _) tree (.ok ()) tree := by
  induction records with
  | nil => exact yields_pure ()
  | cons record rest ih => exact (yields_note record).bind ih

/-! ## Runs that come to the same -/

/-- From every tree the runs give the same answer and leave the same tree, whatever their logs. -/
def SameOutcome (first second : ExceptT ε InMemory α) : Prop :=
  ∀ tree, ∃ given after, Yields first tree given after ∧ Yields second tree given after

theorem Yields.unique {given other : Except ε α} {left : FileTree}
    (yields : Yields run tree given after) (again : Yields run tree other left) :
    given = other ∧ after = left := by
  obtain ⟨_, ran⟩ := yields []
  obtain ⟨_, ran_again⟩ := again []
  obtain ⟨given_eq, session_eq⟩ := Prod.mk.inj (ran.symm.trans ran_again)
  exact ⟨given_eq, congrArg Session.tree session_eq⟩

namespace SameOutcome

variable {first second third : ExceptT ε InMemory α}

theorem symm (same : SameOutcome first second) : SameOutcome second first := by
  intro tree
  obtain ⟨given, after, left, right⟩ := same tree
  exact ⟨given, after, right, left⟩

theorem trans (same : SameOutcome first second) (next : SameOutcome second third) :
    SameOutcome first third := by
  intro tree
  obtain ⟨given, after, left, middle⟩ := same tree
  obtain ⟨_, _, again, right⟩ := next tree
  obtain ⟨rfl, rfl⟩ := middle.unique again
  exact ⟨given, after, left, right⟩

theorem bind {firstNext secondNext : α → ExceptT ε InMemory β} (same : SameOutcome first second)
    (next : ∀ value, SameOutcome (firstNext value) (secondNext value)) :
    SameOutcome (first >>= firstNext) (second >>= secondNext) := by
  intro tree
  obtain ⟨given, middle, left, right⟩ := same tree
  cases given with
  | error error => exact ⟨.error error, middle, left.stop firstNext, right.stop secondNext⟩
  | ok value =>
      obtain ⟨given, after, left_next, right_next⟩ := next value middle
      exact ⟨given, after, left.bind left_next, right.bind right_next⟩

/-- A run that changes nothing can be left out. -/
theorem of_silent {silent : ExceptT ε InMemory β} {value : β}
    (unchanged : ∀ tree, Yields silent tree (.ok value) tree) {next : β → ExceptT ε InMemory α}
    (same : SameOutcome (next value) second) : SameOutcome (silent >>= next) second := by
  intro tree
  obtain ⟨given, after, left, right⟩ := same tree
  exact ⟨given, after, (unchanged tree).bind left, right⟩

end SameOutcome

end Stencil.InMemory
