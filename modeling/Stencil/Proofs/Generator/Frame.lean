import Stencil.Generator
import Stencil.Proofs.Disk.Effect
import Stencil.Proofs.FileTree.Growth

/-!
# A generator touches nothing but its output

`Outcome` lists what a run of a generator can come to: it fails before anything is written, it only
tells what it would write, it stores the generated text, or it fails while it stores it and leaves
at most new directories behind.  `outcome_generate` says that every run comes to one of these.  What
a run may change and how a dry run and a real run agree is read off them.
-/

namespace Stencil.Generator

open FileTree (Grows SameFiles Stores)
open InMemory (Yields answer treeAfter yields_pure yields_throw yields_read yields_has yields_write
  yields_makeDirectories yields_note yields_noteAll)

/-! ## Storing a text -/

/-- The directory of an output stands, or it is the empty path. -/
def ParentStands (output : Path) (tree : FileTree) : Prop :=
  ∀ parent, output.parent? = some parent → parent.text = [] ∨ tree.has parent = true

/-- What making the directory of an output comes to. -/
inductive Ensured (output : Path) (tree : FileTree) : Except Fault Unit → FileTree → Prop where
  /-- There is nothing to make. -/
  | stood (stands : ParentStands output tree) : Ensured output tree (.ok ()) tree
  /-- The directory is made. -/
  | made {parent : Path} (found : output.parent? = some parent)
    (missing : tree.has parent = false) (done : (tree.makeDirectories parent).2 = .ok ()) :
    Ensured output tree (.ok ()) (tree.makeDirectories parent).1
  /-- The directory cannot be made. -/
  | refused {parent : Path} {error : DiskError} (found : output.parent? = some parent)
    (missing : tree.has parent = false)
    (stopped : (tree.makeDirectories parent).2 = .error error) :
    Ensured output tree (.error (.disk parent error)) (tree.makeDirectories parent).1

theorem exists_ensured (output : Path) (tree : FileTree) :
    ∃ given after, Ensured output tree given after := by
  cases found : output.parent? with
  | none => exact ⟨_, tree, .stood fun parent has_parent => nomatch found.symm.trans has_parent⟩
  | some parent =>
      cases stands : tree.has parent with
      | true =>
          refine ⟨_, tree, .stood fun other has_parent => .inr ?_⟩
          obtain rfl := Option.some.inj (found.symm.trans has_parent)
          exact stands
      | false =>
          cases made : (tree.makeDirectories parent).2 with
          | ok => exact ⟨_, _, .made found stands made⟩
          | error error => exact ⟨_, _, .refused found stands made⟩

section Ensured

variable {output : Path} {tree after : FileTree} {given : Except Fault Unit}

/-- A directory that is missing is made. -/
theorem yields_ensureParent_of_missing {parent : Path} (found : output.parent? = some parent)
    (missing : tree.has parent = false) :
    Yields (ensureParent output) tree ((tree.makeDirectories parent).2.mapError (.disk parent))
      (tree.makeDirectories parent).1 := by
  unfold ensureParent
  rw [found]
  dsimp only
  refine (yields_has parent).bind ?_
  rw [missing, if_neg Bool.false_ne_true]
  refine (yields_makeDirectories parent).bind ?_
  cases (tree.makeDirectories parent).2 with
  | ok => exact yields_pure ()
  | error error => exact yields_throw _

theorem Ensured.yields (ensured : Ensured output tree given after) :
    Yields (ensureParent output) tree given after := by
  cases ensured with
  | stood stands =>
      cases found : output.parent? with
      | none =>
          unfold ensureParent
          rw [found]
          exact yields_pure ()
      | some parent =>
          cases standing : tree.has parent with
          | true =>
              unfold ensureParent
              rw [found]
              dsimp only
              refine (yields_has parent).bind ?_
              rw [standing, if_pos rfl]
              exact yields_pure ()
          | false =>
              -- Nothing is made for the empty path.
              have empty : parent.text = [] := by simpa [standing] using stands parent found
              have made := yields_ensureParent_of_missing found standing
              have nothing : tree.makeDirectories parent = (tree, .ok ()) := by
                simp [FileTree.makeDirectories, Path.ancestors, Path.ancestorsFrom, empty,
                  FileTree.makeAll]
              rwa [nothing] at made
  | made found missing done =>
      have made := yields_ensureParent_of_missing found missing
      rwa [done] at made
  | refused found missing stopped =>
      have made := yields_ensureParent_of_missing found missing
      rwa [stopped] at made

theorem Ensured.grows (ensured : Ensured output tree given after) :
    Grows (·.IsAbove output) tree after := by
  cases ensured with
  | stood => exact .refl _ tree
  | made found => exact tree.grows_makeDirectories found
  | refused found => exact tree.grows_makeDirectories found

end Ensured

theorem yields_store_of_writable {output : Path} {tree grown : FileTree} {location : Location}
    (ensured : Ensured output tree (.ok ()) grown) (writable : grown.Writable output location)
    (text : Text) :
    Yields (store output text) tree (.ok ()) (grown.put location (.file (.text text))) := by
  have attempt : Yields (Disk.write output text : ExceptT Fault InMemory _) grown _ _ :=
    yields_write grown output text
  rw [writable.write_eq text] at attempt
  exact ensured.yields.bind (attempt.bind (yields_note _))

/-- A text that cannot be stored leaves at most new directories behind. -/
theorem writable_or_yields_store (output : Path) (text : Text) (tree : FileTree) :
    (∃ grown location, Ensured output tree (.ok ()) grown ∧ grown.Writable output location) ∨
      ∃ path error after, Yields (store output text) tree (.error (.disk path error)) after ∧
        Grows (·.IsAbove output) tree after := by
  obtain ⟨given, middle, ensured⟩ := exists_ensured output tree
  cases given with
  | error fault =>
      cases ensured with
      | refused found missing stopped =>
          have refused := Ensured.refused found missing stopped
          exact .inr ⟨_, _, _, refused.yields.stop _, refused.grows⟩
  | ok =>
      cases written : middle.write output text with
      | ok after =>
          obtain ⟨location, writable, _⟩ := FileTree.exists_writable_of_write written
          exact .inl ⟨middle, location, ensured, writable⟩
      | error error =>
          have attempt : Yields (Disk.write output text : ExceptT Fault InMemory _) middle _ _ :=
            yields_write middle output text
          rw [written] at attempt
          refine .inr ⟨output, error, middle, ?_, ensured.grows⟩
          exact ensured.yields.bind (attempt.bind ((yields_note _).bind (yields_throw _)))

/-! ## Outcomes -/

/-- What a run has in hand before anything is written: the generated text, or why there is none. -/
def prepare (generator : Generator) (template output : Path) (tree : FileTree) :
    Except Fault Text :=
  if output.fileName? = none then .error (.disk output .missingFileName)
  else
    match tree.read template with
    | .error error => .error (.disk template error)
    | .ok source => (Template.generate generator.style source).mapError .template

/-- What a run of a generator on a tree comes to: its answer and the tree after it. -/
inductive Outcome (generator : Generator) (template output : Path) (tree : FileTree) :
    Except Fault Text → FileTree → Prop where
  /-- There is no text. -/
  | refused {fault : Fault}
    (none_prepared : generator.prepare template output tree = .error fault) :
    Outcome generator template output tree (.error fault) tree
  /-- In a dry run the text is not written. -/
  | dry {text : Text} (prepared : generator.prepare template output tree = .ok text)
    (dry_run : generator.dryRun = true) :
    Outcome generator template output tree (.ok text) tree
  /-- The text is stored. -/
  | stored {text : Text} {after : FileTree} {location : Location}
    (prepared : generator.prepare template output tree = .ok text)
    (real_run : generator.dryRun = false) (stores : Stores output text tree after location) :
    Outcome generator template output tree (.ok text) after
  /-- The text cannot be stored. -/
  | unstored {text : Text} {after : FileTree} {path : Path} {error : DiskError}
    (prepared : generator.prepare template output tree = .ok text)
    (real_run : generator.dryRun = false) (grows : Grows (·.IsAbove output) tree after) :
    Outcome generator template output tree (.error (.disk path error)) after

section Run

variable {generator : Generator} {template output : Path} {tree : FileTree}

theorem yields_generate_of_refused {fault : Fault}
    (none_prepared : generator.prepare template output tree = .error fault) :
    Yields (generator.generate template output) tree (.error fault) tree := by
  unfold prepare at none_prepared
  unfold generate
  split at none_prepared
  next missing =>
    obtain rfl := Except.error.inj none_prepared
    rw [missing, Option.isNone_none, if_pos rfl]
    exact (yields_note _).bind (yields_throw _)
  next named =>
    rw [if_neg (by simpa using named)]
    refine (yields_note _).bind ((yields_read template).bind ?_)
    cases read : tree.read template with
    | error error =>
        obtain rfl : .disk template error = fault := by simpa [read] using none_prepared
        exact (yields_note _).bind (yields_throw _)
    | ok source =>
        refine (yields_noteAll _).bind ?_
        cases generated : Template.generate generator.style source with
        | error reason =>
            obtain rfl : .template reason = fault := by
              simpa [read, generated, Except.mapError] using none_prepared
            exact yields_throw _
        | ok text => simp [read, generated, Except.mapError] at none_prepared

/-- With the text in hand, a run tells about it or stores it. -/
theorem yields_generate_of_prepared {text : Text}
    (prepared : generator.prepare template output tree = .ok text) {given : Except Fault Text}
    {after : FileTree}
    (rest : Yields
      (do
        if generator.dryRun then
          Disk.note (.info s!"[DRY RUN] Would write: {output.quoted}")
        else store output text
        return text) tree given after) :
    Yields (generator.generate template output) tree given after := by
  unfold prepare at prepared
  unfold generate
  split at prepared
  next => cases prepared
  next named =>
    rw [if_neg (by simpa using named)]
    refine (yields_note _).bind ((yields_read template).bind ?_)
    cases read : tree.read template with
    | error error => simp [read] at prepared
    | ok source =>
        refine (yields_noteAll _).bind ?_
        cases generated : Template.generate generator.style source with
        | error reason => simp [read, generated, Except.mapError] at prepared
        | ok found =>
            obtain rfl : found = text := by
              simpa [read, generated, Except.mapError] using prepared
            exact rest

theorem yields_generate_of_writable {text : Text} {grown : FileTree} {location : Location}
    (prepared : generator.prepare template output tree = .ok text)
    (real_run : generator.dryRun = false) (ensured : Ensured output tree (.ok ()) grown)
    (writable : grown.Writable output location) :
    Yields (generator.generate template output) tree (.ok text)
      (grown.put location (.file (.text text))) := by
  refine yields_generate_of_prepared prepared ?_
  rw [real_run]
  exact (yields_store_of_writable ensured writable text).bind (yields_pure text)

theorem yields_generate_of_unstored {text : Text} {fault : Fault} {after : FileTree}
    (prepared : generator.prepare template output tree = .ok text)
    (real_run : generator.dryRun = false)
    (stopped : Yields (store output text) tree (.error fault) after) :
    Yields (generator.generate template output) tree (.error fault) after := by
  refine yields_generate_of_prepared prepared ?_
  rw [real_run]
  exact stopped.stop _

end Run

/-- Every run comes to one of the outcomes. -/
theorem outcome_generate (generator : Generator) (template output : Path) (tree : FileTree) :
    ∃ given after, Yields (generator.generate template output) tree given after ∧
      Outcome generator template output tree given after := by
  cases prepared : generator.prepare template output tree with
  | error fault => exact ⟨_, _, yields_generate_of_refused prepared, .refused prepared⟩
  | ok text =>
      cases dry_run : generator.dryRun with
      | true =>
          refine ⟨_, _, yields_generate_of_prepared prepared ?_, .dry prepared dry_run⟩
          rw [dry_run]
          exact (yields_note _).bind (yields_pure text)
      | false =>
          rcases writable_or_yields_store output text tree with
            ⟨grown, location, ensured, writable⟩ | ⟨path, error, after, stopped, grows⟩
          · exact ⟨_, _, yields_generate_of_writable prepared dry_run ensured writable,
              .stored prepared dry_run (writable.stores ensured.grows text)⟩
          · exact ⟨_, after, yields_generate_of_unstored prepared dry_run stopped,
              .unstored prepared dry_run grows⟩

/-! ## What a run may change -/

section Outcome

variable {generator : Generator} {template output : Path} {old new : FileTree}

theorem prepare_eq_ok_iff (generator : Generator) (template output : Path) (tree : FileTree)
    (text : Text) :
    generator.prepare template output tree = .ok text ↔
      output.fileName? ≠ none ∧ ∃ source, tree.read template = .ok source ∧
        Template.generate generator.style source = .ok text := by
  unfold prepare
  split
  next missing => simp [missing]
  next named =>
    cases read : tree.read template with
    | error error => simp
    | ok source =>
        cases generated : Template.generate generator.style source <;>
          simp [generated, named, Except.mapError]

theorem Outcome.prepared {text : Text}
    (outcome : Outcome generator template output old (.ok text) new) :
    generator.prepare template output old = .ok text := by
  cases outcome <;> assumption

theorem Outcome.of_refused {given : Except Fault Text} {fault : Fault}
    (outcome : Outcome generator template output old given new)
    (none_prepared : generator.prepare template output old = .error fault) :
    given = .error fault ∧ new = old := by
  cases outcome with
  | refused refused => exact ⟨refused.symm.trans none_prepared, rfl⟩
  | dry prepared => cases prepared.symm.trans none_prepared
  | stored prepared => cases prepared.symm.trans none_prepared
  | unstored prepared => cases prepared.symm.trans none_prepared

theorem Outcome.of_dry {given : Except Fault Text}
    (outcome : Outcome generator template output old given new)
    (dry_run : generator.dryRun = true) :
    given = generator.prepare template output old ∧ new = old := by
  cases outcome with
  | refused none_prepared => exact ⟨none_prepared.symm, rfl⟩
  | dry prepared => exact ⟨prepared.symm, rfl⟩
  | stored _ real_run => cases real_run.symm.trans dry_run
  | unstored _ real_run => cases real_run.symm.trans dry_run

theorem Outcome.stores {text : Text}
    (outcome : Outcome generator template output old (.ok text) new)
    (real_run : generator.dryRun = false) : ∃ location, Stores output text old new location := by
  cases outcome with
  | dry _ dry_run => cases real_run.symm.trans dry_run
  | stored _ _ stores => exact ⟨_, stores⟩

theorem Outcome.grows {fault : Fault}
    (outcome : Outcome generator template output old (.error fault) new) :
    Grows (·.IsAbove output) old new := by
  cases outcome with
  | refused => exact .refl _ old
  | unstored _ _ grows => exact grows

end Outcome

/-- A run touches nothing but its output. -/
structure Contained (generator : Generator) (template output : Path) (old : FileTree)
    (given : Except Fault Text) (new : FileTree) : Prop where
  /-- An answer is the text that the template stands for. -/
  text_eq : ∀ text, given = .ok text →
    ∃ source, old.read template = .ok source ∧
      Template.generate generator.style source = .ok text
  /-- A dry run changes nothing. -/
  dry : generator.dryRun = true → new = old
  /-- A real run stores the text at the output. -/
  stored : ∀ text, given = .ok text → generator.dryRun = false →
    ∃ location, Stores output text old new location
  /-- A failed run changes no file and makes at most directories above the output. -/
  failed : ∀ fault, given = .error fault →
    SameFiles old new ∧ Grows (·.IsAbove output) old new
  /-- An output that does not end in a name is refused at once. -/
  unnamed : output.fileName? = none →
    given = .error (.disk output .missingFileName) ∧ new = old
  /-- A template that cannot be read ends the run. -/
  unreadable : output.fileName? ≠ none → ∀ error, old.read template = .error error →
    given = .error (.disk template error) ∧ new = old
  /-- A faulty template ends the run. -/
  faulty : output.fileName? ≠ none → ∀ source fault, old.read template = .ok source →
    Template.generate generator.style source = .error fault →
    given = .error (.template fault) ∧ new = old

theorem Outcome.contained {generator : Generator} {template output : Path} {old new : FileTree}
    {given : Except Fault Text} (outcome : Outcome generator template output old given new) :
    Contained generator template output old given new where
  text_eq text given_eq := by
    subst given_eq
    exact ((prepare_eq_ok_iff _ _ _ _ _).mp outcome.prepared).2
  dry dry_run := (outcome.of_dry dry_run).2
  stored text given_eq real_run := by
    subst given_eq
    exact outcome.stores real_run
  failed fault given_eq := by
    subst given_eq
    exact ⟨outcome.grows.sameFiles, outcome.grows⟩
  unnamed missing := outcome.of_refused (by rw [prepare, if_pos missing])
  unreadable named error unread := outcome.of_refused (by rw [prepare, if_neg named, unread])
  faulty named source fault read refused := outcome.of_refused (by
    rw [prepare, if_neg named, read]
    simp [refused, Except.mapError])

/-- A run of a generator touches nothing but its output, and on the same tree a dry run and a real
run agree: what the real run generates the dry run generates, and where the dry run fails the real
run fails alike. -/
theorem generate_contained (style : Style) (template output : Path) (session : Session) :
    let run (dryRun : Bool) : ExceptT Fault InMemory Text :=
      generate ⟨style, dryRun⟩ template output
    (∀ dryRun, Contained ⟨style, dryRun⟩ template output session.tree
      (answer (run dryRun) session) (treeAfter (run dryRun) session)) ∧
    (∀ text, answer (run false) session = .ok text → answer (run true) session = .ok text) ∧
    ∀ fault, answer (run true) session = .error fault →
      answer (run false) session = .error fault := by
  intro run
  have outcome (dryRun : Bool) : Outcome ⟨style, dryRun⟩ template output session.tree
      (answer (run dryRun) session) (treeAfter (run dryRun) session) := by
    obtain ⟨given, after, yields, outcome⟩ :=
      outcome_generate ⟨style, dryRun⟩ template output session.tree
    rw [yields.answer_eq, yields.treeAfter_eq]
    exact outcome
  obtain ⟨dry_answer, _⟩ := (outcome true).of_dry rfl
  refine ⟨fun dryRun => (outcome dryRun).contained, fun text generated => ?_,
    fun fault failed => ?_⟩
  · have real := outcome false
    rw [generated] at real
    exact dry_answer.trans real.prepared
  · exact ((outcome false).of_refused (dry_answer.symm.trans failed)).1

end Stencil.Generator
