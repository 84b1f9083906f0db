import Stencil.Project
import Stencil.Proofs.Disk.Effect
import Stencil.Proofs.FileTree.Additions

/-!
# What setting up a project leaves behind

A project is set up in three steps, each of which may fail: its directory is made, then the
configuration is written, then the first template.  Only a configuration is looked for beforehand,
and nothing is taken back.  `Setup` follows the steps, and `Safe` says of a tree whether they either
all succeed without touching a file that stands, or change nothing.
-/

namespace Stencil.Project

open FileTree (Grows Writable LeadApart)
open InMemory (Yields answer treeAfter yields_pure yields_throw yields_has yields_makeDirectories
  yields_write yields_note)

/-- Where the configuration of a new project goes. -/
def newConfig (directory : Path) : Path := directory.join configFile

/-- Where the first template of a new project goes. -/
def newTemplate (directory : Path) : Path := directory.join templateFile

theorem leadApart_new (directory : Path) :
    LeadApart (newConfig directory) (newTemplate directory) :=
  FileTree.leadApart_join directory ⟨by decide, by decide⟩ ⟨by decide, by decide⟩ (by decide)

/-! ## The steps -/

/-- What setting up a project in a directory comes to: the answer, and the tree after it. -/
inductive Setup (directory : Path) (tree : FileTree) : Except Fault Unit → FileTree → Prop where
  /-- There is a configuration. -/
  | standing (stands : tree.has (newConfig directory) = true) :
    Setup directory tree (.error (.exists (newConfig directory))) tree
  /-- The directory cannot be made; those on the way to it may be there now. -/
  | unmade {grown : FileTree} {error : DiskError}
    (absent : tree.has (newConfig directory) = false)
    (stopped : tree.makeDirectories directory = (grown, .error error)) :
    Setup directory tree (.error (.disk error)) grown
  /-- The configuration cannot be written, and the directory stays. -/
  | unconfigured {grown : FileTree} {error : DiskError}
    (absent : tree.has (newConfig directory) = false)
    (made : tree.makeDirectories directory = (grown, .ok ()))
    (refused : grown.write (newConfig directory) configContent = .error error) :
    Setup directory tree (.error (.disk error)) grown
  /-- The template cannot be written, and the configuration stays. -/
  | halved {grown configured : FileTree} {error : DiskError}
    (absent : tree.has (newConfig directory) = false)
    (made : tree.makeDirectories directory = (grown, .ok ()))
    (written : grown.write (newConfig directory) configContent = .ok configured)
    (refused : configured.write (newTemplate directory) templateContent = .error error) :
    Setup directory tree (.error (.disk error)) configured
  /-- Both files are written. -/
  | complete {grown configured after : FileTree}
    (absent : tree.has (newConfig directory) = false)
    (made : tree.makeDirectories directory = (grown, .ok ()))
    (written : grown.write (newConfig directory) configContent = .ok configured)
    (finished : configured.write (newTemplate directory) templateContent = .ok after) :
    Setup directory tree (.ok ()) after

section Steps

variable {directory path : Path} {tree grown configured after : FileTree} {text : Text}

theorem exists_setup (directory : Path) (tree : FileTree) :
    ∃ given after, Setup directory tree given after := by
  cases absent : tree.has (newConfig directory) with
  | true => exact ⟨_, _, .standing absent⟩
  | false =>
      rcases made : tree.makeDirectories directory with ⟨grown, error | _⟩
      · exact ⟨_, _, .unmade absent made⟩
      · cases written : grown.write (newConfig directory) configContent with
        | error error => exact ⟨_, _, .unconfigured absent made written⟩
        | ok configured =>
            cases finished : configured.write (newTemplate directory) templateContent with
            | error error => exact ⟨_, _, .halved absent made written finished⟩
            | ok after => exact ⟨_, _, .complete absent made written finished⟩

/-- A step that fails ends the command. -/
theorem yields_check {step : InMemory (Except DiskError Unit)} {given : Except DiskError Unit}
    (yields : Yields (liftM step : ExceptT Fault InMemory _) tree (.ok given) after) :
    Yields (check step) tree (given.mapError .disk) after := by
  refine yields.bind ?_
  cases given with
  | ok => exact yields_pure ()
  | error error => exact yields_throw _

theorem yields_made {outcome : Except DiskError Unit}
    (made : tree.makeDirectories directory = (grown, outcome)) :
    Yields (check (Disk.makeDirectories directory)) tree (outcome.mapError .disk) grown := by
  have steps : Yields (check (Disk.makeDirectories directory)) tree _ _ :=
    yields_check (yields_makeDirectories directory)
  rwa [made] at steps

theorem yields_written (done : tree.write path text = .ok after) :
    Yields (check (Disk.write path text)) tree (.ok ()) after := by
  have steps := yields_check (yields_write tree path text)
  rwa [done] at steps

theorem yields_refused {error : DiskError} (refused : tree.write path text = .error error) :
    Yields (check (Disk.write path text)) tree (.error (.disk error)) tree := by
  have steps := yields_check (yields_write tree path text)
  rwa [refused] at steps

theorem Setup.yields {given : Except Fault Unit} (setup : Setup directory tree given after) :
    Yields (init directory) tree given after := by
  have looked {absent : Bool} (has_eq : tree.has (newConfig directory) = absent) :
      Yields (Disk.has (newConfig directory) : ExceptT Fault InMemory _) tree (.ok absent) tree :=
    has_eq ▸ yields_has _
  refine (yields_note _).bind ?_
  cases setup with
  | standing stands => exact (looked stands).bind (yields_throw _)
  | unmade absent stopped => exact (looked absent).bind ((yields_made stopped).stop _)
  | unconfigured absent made refused =>
      exact (looked absent).bind ((yields_made made).bind ((yields_refused refused).stop _))
  | halved absent made written refused =>
      refine (looked absent).bind ((yields_made made).bind ((yields_written written).bind ?_))
      exact (yields_refused refused).stop _
  | complete absent made written finished =>
      refine (looked absent).bind ((yields_made made).bind ((yields_written written).bind ?_))
      exact (yields_written finished).bind ((yields_note _).bind (yields_note _))

end Steps

/-! ## Existing work -/

/-- A run that takes care of existing work: if it succeeds, whatever stood stands as it was, and if
it fails, nothing changes. -/
structure Careful (old : FileTree) (given : Except Fault Unit) (new : FileTree) : Prop where
  added : given = .ok () → old.Extends new
  unchanged : ∀ fault, given = .error fault → new = old

/-- There is a configuration, or nothing can be changed at all, or there is room for both files. -/
inductive Safe (directory : Path) (tree : FileTree) : Prop where
  /-- There is a configuration. -/
  | configured (stands : tree.has (newConfig directory) = true)
  /-- The directory cannot be made, nor any on the way to it. -/
  | unmade {error : DiskError} (stopped : tree.makeDirectories directory = (tree, .error error))
  /-- The directory is there already, and the configuration cannot be written. -/
  | unwritten {error : DiskError} (made : tree.makeDirectories directory = (tree, .ok ()))
    (refused : tree.write (newConfig directory) configContent = .error error)
  /-- Once the directory is made, it has room for both files: each can be written, and where one
  stands already it has the very text. -/
  | fresh {grown : FileTree} (made : tree.makeDirectories directory = (grown, .ok ()))
    (config : grown.Accepts (newConfig directory) configContent)
    (template : grown.Accepts (newTemplate directory) templateContent)

section Care

variable {directory : Path} {tree grown configured after : FileTree}

theorem careful_error_iff {fault : Fault} {old new : FileTree} :
    Careful old (.error fault) new ↔ new = old :=
  ⟨fun careful => careful.unchanged fault rfl, fun same => ⟨nofun, fun _ _ => same⟩⟩

theorem careful_ok_iff {old new : FileTree} : Careful old (.ok ()) new ↔ old.Extends new :=
  ⟨fun careful => careful.added rfl, fun extends_old => ⟨fun _ => extends_old, nofun⟩⟩

theorem grows_of_makeDirectories {outcome : Except DiskError Unit}
    (made : tree.makeDirectories directory = (grown, outcome)) :
    Grows (· ∈ directory.ancestors) tree grown := by
  have grows := FileTree.grows_makeAll tree directory.ancestors
  rwa [show tree.makeAll directory.ancestors = (grown, outcome) from made] at grows

/-- A configuration that is written was missing before. -/
theorem ne_of_configured (absent : tree.has (newConfig directory) = false)
    (written : grown.write (newConfig directory) configContent = .ok configured) :
    configured ≠ tree := by
  -- Otherwise the configuration would stand in the tree, and the command would have found it.
  rintro rfl
  obtain ⟨location, writable, rfl⟩ := FileTree.exists_writable_of_write written
  have stores := writable.stores (Grows.refl _ _) configContent
  have found := (FileTree.read_eq_ok_iff_lookup _ _ _).mp stores.read
  exact absurd ((FileTree.has_iff _ _).mpr ⟨_, found⟩) (by simp [absent])

/-- Where both files are written, nothing is lost exactly if there was room for both. -/
theorem extends_iff_of_complete (made : tree.makeDirectories directory = (grown, .ok ()))
    (written : grown.write (newConfig directory) configContent = .ok configured)
    (finished : configured.write (newTemplate directory) templateContent = .ok after) :
    tree.Extends after ↔ grown.Accepts (newConfig directory) configContent ∧
      grown.Accepts (newTemplate directory) templateContent := by
  obtain ⟨location, writable, rfl⟩ := FileTree.exists_writable_of_write written
  obtain ⟨other, again, rfl⟩ := FileTree.exists_writable_of_write finished
  exact Writable.extends_put_put_iff (grows_of_makeDirectories made) (leadApart_new directory)
    writable again

/-- Room for both files is left when the first of them is written. -/
theorem exists_finished (written : grown.write (newConfig directory) configContent = .ok configured)
    (template : grown.Accepts (newTemplate directory) templateContent) :
    ∃ after, configured.write (newTemplate directory) templateContent = .ok after := by
  obtain ⟨location, writable, rfl⟩ := FileTree.exists_writable_of_write written
  exact ((writable.accepts_put_iff (leadApart_new directory)).mpr template).written

/-- Whatever fails after the tree was changed leaves the change behind. -/
theorem Setup.safe_of_careful {given : Except Fault Unit}
    (setup : Setup directory tree given after) (careful : Careful tree given after) :
    Safe directory tree := by
  cases setup with
  | standing stands => exact .configured stands
  | unmade absent stopped =>
      obtain rfl := careful_error_iff.mp careful
      exact .unmade stopped
  | unconfigured absent made refused =>
      obtain rfl := careful_error_iff.mp careful
      exact .unwritten made refused
  | halved absent made written refused =>
      exact absurd (careful_error_iff.mp careful) (ne_of_configured absent written)
  | complete absent made written finished =>
      obtain ⟨config, template⟩ :=
        (extends_iff_of_complete made written finished).mp (careful_ok_iff.mp careful)
      exact .fresh made config template

theorem Safe.exists_careful (safe : Safe directory tree) :
    ∃ given after, Setup directory tree given after ∧ Careful tree given after := by
  cases absent : tree.has (newConfig directory) with
  | true => exact ⟨_, _, .standing absent, careful_error_iff.mpr rfl⟩
  | false =>
      cases safe with
      | configured stands => simp [absent] at stands
      | unmade stopped => exact ⟨_, _, .unmade absent stopped, careful_error_iff.mpr rfl⟩
      | unwritten made refused =>
          exact ⟨_, _, .unconfigured absent made refused, careful_error_iff.mpr rfl⟩
      | fresh made config template =>
          obtain ⟨configured, written⟩ := config.written
          obtain ⟨after, finished⟩ := exists_finished written template
          have extends_tree :=
            (extends_iff_of_complete made written finished).mpr ⟨config, template⟩
          exact ⟨_, after, .complete absent made written finished, careful_ok_iff.mpr extends_tree⟩

end Care

/-- Setting up a project takes care of existing work exactly if the tree is safe for it: it loses a
template with another text, and what it made before a step failed stays. -/
theorem init_careful_iff (directory : Path) (session : Session) :
    Careful session.tree (answer (init directory) session) (treeAfter (init directory) session) ↔
      Safe directory session.tree := by
  constructor
  · intro careful
    obtain ⟨given, after, setup⟩ := exists_setup directory session.tree
    rw [setup.yields.answer_eq, setup.yields.treeAfter_eq] at careful
    exact setup.safe_of_careful careful
  · intro safe
    obtain ⟨given, after, setup, careful⟩ := safe.exists_careful
    rwa [setup.yields.answer_eq, setup.yields.treeAfter_eq]

/-- There is no configuration, but a template that was written by hand. -/
def ownTemplate : Session where
  tree := ⟨[], [([templateFile.text], .file (.text "mine".toList))]⟩
  log := []

theorem templateContent_ne_mine : templateContent ≠ "mine".toList := by
  have ends (start : Text) : (start ++ "\x7d\n".toList).getLast? = some '\n' := by simp
  unfold templateContent
  rw [String.toList_append]
  intro same
  have last := (ends _).symm.trans (congrArg List.getLast? same)
  exact absurd last (by decide)

theorem not_init_careful :
    ¬∀ directory session, Careful session.tree (answer (init directory) session)
      (treeAfter (init directory) session) := by
  intro careful
  have succeeded : answer (init ⟨['.']⟩) ownTemplate = .ok () := by decide +kernel
  have replaced : (treeAfter (init ⟨['.']⟩) ownTemplate).find? [templateFile.text] =
      some (.file (.text templateContent)) := by rfl
  have kept := ((careful ⟨['.']⟩ ownTemplate).added succeeded).item [templateFile.text]
    (.file (.text "mine".toList)) (by decide)
  rw [replaced] at kept
  exact templateContent_ne_mine (by simpa using kept)

end Stencil.Project
