import Stencil.Project
import Stencil.Proofs.Generator.Frame

/-!
# What a command leaves behind

The jobs of a configuration run one after the other, and each that succeeds stores its output before
the next one starts.  `Ran` follows the jobs and keeps what was stored, and a command that fails
leaves those texts behind: it changes no file exactly if every file that was stored ends as it was.
-/

namespace Stencil.Project

open FileTree (SameFiles Stores)
open Generator (Outcome outcome_generate)
open InMemory (Yields answer treeAfter yields_pure yields_throw yields_read yields_note
  yields_noteAll)

/-! ## Texts that were stored -/

/-- The texts that were stored and where, the first one first. -/
abbrev Writes := List (Location × Text)

/-- The text that was stored last at a location. -/
def Writes.latest? (writes : Writes) (location : Location) : Option Text :=
  writes.reverse.lookup location

theorem Writes.latest?_cons (place : Location) (text : Text) (writes : Writes)
    (location : Location) :
    Writes.latest? ((place, text) :: writes) location =
      (writes.latest? location).or (if location = place then some text else none) := by
  rw [latest?, List.reverse_cons, List.lookup_append, latest?]
  congr 1
  by_cases here : location = place
  · simp [here]
  · have elsewhere : (location == place) = false := by simpa using here
    simp [here, List.lookup_cons, elsewhere]

/-- Every file that was stored ends with the text that it has in the tree. -/
def Writes.AlreadyIn (writes : Writes) (tree : FileTree) : Prop :=
  ∀ location text, writes.latest? location = some text → tree.file? location = some (.text text)

/-- The new tree has the files of the old one and those that were stored. -/
def Writes.Leads (writes : Writes) (old new : FileTree) : Prop :=
  ∀ location, new.file? location = ((writes.latest? location).map .text).or (old.file? location)

variable {writes : Writes} {old middle new : FileTree}

theorem Writes.leads_nil (same : SameFiles old new) : Leads [] old new := same

theorem Writes.leads_cons {output : Path} {text : Text} {location : Location}
    (stores : Stores output text old middle location) (rest : writes.Leads middle new) :
    Leads ((location, text) :: writes) old new := by
  intro other
  rw [rest other, stores.file?_eq other, latest?_cons]
  cases writes.latest? other with
  | some later => rfl
  | none => by_cases here : other = location <;> simp [here]

theorem Writes.Leads.sameFiles_iff (leads : writes.Leads old new) :
    SameFiles old new ↔ writes.AlreadyIn old := by
  constructor
  · intro same location text stored
    rw [← same location, leads location, stored]
    rfl
  · intro already location
    rw [leads location]
    cases stored : writes.latest? location with
    | none => rfl
    | some text => exact (already location text stored).symm

/-! ## Jobs one after the other -/

/-- What running jobs on a tree comes to: the texts that are stored, the answer, and the tree after
it. -/
inductive Ran (options : Options) (generator : Generator) :
    FileTree → List Job → Writes → Except Fault Unit → FileTree → Prop where
  /-- No job is left. -/
  | done (tree : FileTree) : Ran options generator tree [] [] (.ok ()) tree
  /-- A job is not to be run. -/
  | leftOut {tree after : FileTree} {job : Job} {rest : List Job} {writes : Writes}
    {given : Except Fault Unit} (not_run : options.runs job = false)
    (later : Ran options generator tree rest writes given after) :
    Ran options generator tree (job :: rest) writes given after
  /-- In a dry run a job only tells what it would write. -/
  | told {tree after : FileTree} {job : Job} {rest : List Job} {writes : Writes}
    {given : Except Fault Unit} {text : Text} (runs : options.runs job = true)
    (dry_run : generator.dryRun = true)
    (prepared : generator.prepare (options.templatePath job) (options.outputPath job) tree =
      .ok text)
    (later : Ran options generator tree rest writes given after) :
    Ran options generator tree (job :: rest) writes given after
  /-- A job stores its text, and the next one starts from there. -/
  | stored {tree middle after : FileTree} {job : Job} {rest : List Job} {writes : Writes}
    {given : Except Fault Unit} {text : Text} {location : Location}
    (runs : options.runs job = true) (real_run : generator.dryRun = false)
    (prepared : generator.prepare (options.templatePath job) (options.outputPath job) tree =
      .ok text)
    (stores : Stores (options.outputPath job) text tree middle location)
    (later : Ran options generator middle rest writes given after) :
    Ran options generator tree (job :: rest) ((location, text) :: writes) given after
  /-- A job fails, and no later one is run. -/
  | failed {tree after : FileTree} {job : Job} {rest : List Job} {fault : Generator.Fault}
    (runs : options.runs job = true)
    (outcome : Outcome generator (options.templatePath job) (options.outputPath job) tree
      (.error fault) after) :
    Ran options generator tree (job :: rest) []
      (.error (.generate (options.templatePath job) (options.outputPath job) fault)) after

section Jobs

variable {options : Options} {generator : Generator} {tree after : FileTree}

theorem Ran.leads {jobs : List Job} {given : Except Fault Unit}
    (ran : Ran options generator tree jobs writes given after) : writes.Leads tree after := by
  induction ran with
  | done tree => exact Writes.leads_nil fun _ => rfl
  | leftOut _ _ ih => exact ih
  | told _ _ _ _ ih => exact ih
  | stored _ _ _ stores _ ih => exact Writes.leads_cons stores ih
  | failed _ outcome => exact Writes.leads_nil outcome.grows.sameFiles

theorem yields_skipJob (job : Job) (tree : FileTree) :
    Yields (skipJob job : ExceptT Fault InMemory Unit) tree (.ok ()) tree := by
  unfold skipJob
  split <;> exact yields_note _

/-- A job fails if its generator does. -/
theorem yields_runJob {job : Job} {given : Except Generator.Fault Text}
    (yields : Yields (generator.generate (options.templatePath job) (options.outputPath job)) tree
      given after) :
    Yields (runJob options generator job) tree
      ((given.map fun _ => ()).mapError
        (.generate (options.templatePath job) (options.outputPath job))) after := by
  have attempt : Yields (liftM (generator.generate (options.templatePath job)
      (options.outputPath job)).run : ExceptT Fault InMemory _) tree (.ok given) after :=
    yields.attempt
  refine (yields_note _).bind (attempt.bind ?_)
  cases given with
  | ok text => exact yields_pure ()
  | error fault => exact yields_throw _

section Step

variable {job : Job} {rest : List Job} {middle : FileTree}

theorem yields_runJobs_of_leftOut {given : Except Fault Unit} (not_run : options.runs job = false)
    (later : Yields (runJobs options generator rest) tree given after) :
    Yields (runJobs options generator (job :: rest)) tree given after := by
  refine (yields_noteAll _).bind ?_
  rw [not_run]
  exact (yields_skipJob job tree).bind later

theorem yields_runJobs_of_ok {given : Except Fault Unit} {text : Text}
    (runs : options.runs job = true)
    (generated : Yields (generator.generate (options.templatePath job) (options.outputPath job))
      tree (.ok text) middle)
    (later : Yields (runJobs options generator rest) middle given after) :
    Yields (runJobs options generator (job :: rest)) tree given after := by
  refine (yields_noteAll _).bind ?_
  rw [runs]
  exact (yields_runJob generated).bind later

theorem yields_runJobs_of_error {fault : Generator.Fault} (runs : options.runs job = true)
    (stopped : Yields (generator.generate (options.templatePath job) (options.outputPath job))
      tree (.error fault) after) (rest : List Job) :
    Yields (runJobs options generator (job :: rest)) tree
      (.error (.generate (options.templatePath job) (options.outputPath job) fault)) after := by
  refine (yields_noteAll _).bind ?_
  rw [runs]
  exact (yields_runJob stopped).stop _

end Step

theorem yields_runJobs (options : Options) (generator : Generator) (jobs : List Job)
    (tree : FileTree) :
    ∃ writes given after, Yields (runJobs options generator jobs) tree given after ∧
      Ran options generator tree jobs writes given after := by
  induction jobs generalizing tree with
  | nil => exact ⟨[], .ok (), tree, yields_pure (), .done tree⟩
  | cons job rest ih =>
      cases runs : options.runs job with
      | false =>
          obtain ⟨writes, given, after, yields, ran⟩ := ih tree
          exact ⟨writes, given, after, yields_runJobs_of_leftOut runs yields, .leftOut runs ran⟩
      | true =>
          obtain ⟨given, middle, generated, outcome⟩ :=
            outcome_generate generator (options.templatePath job) (options.outputPath job) tree
          cases given with
          | error fault =>
              exact ⟨[], _, middle, yields_runJobs_of_error runs generated rest,
                .failed runs outcome⟩
          | ok text =>
              obtain ⟨writes, given, after, yields, ran⟩ := ih middle
              have both := yields_runJobs_of_ok runs generated yields
              cases dry_run : generator.dryRun with
              | true =>
                  obtain ⟨_, rfl⟩ := outcome.of_dry dry_run
                  exact ⟨_, given, after, both, .told runs dry_run outcome.prepared ran⟩
              | false =>
                  obtain ⟨location, stores⟩ := outcome.stores dry_run
                  exact ⟨_, given, after, both, .stored runs dry_run outcome.prepared stores ran⟩

end Jobs

/-! ## Commands -/

/-- What a command comes to: the configuration cannot be used, or its jobs are run. -/
inductive Command (options : Options) (tree : FileTree) :
    Writes → Except Fault Unit → FileTree → Prop where
  | unusable {reason : Config.Fault}
    (refused : Config.ofFile (tree.read options.config) = .error reason) :
    Command options tree [] (.error (.config options.config reason)) tree
  | jobs {config : Config} {writes : Writes} {given : Except Fault Unit} {after : FileTree}
    (loaded : Config.ofFile (tree.read options.config) = .ok config)
    (ran : Ran options ⟨config.style, options.dryRun⟩ tree config.jobs writes given after) :
    Command options tree writes given after

theorem Command.leads {options : Options} {tree after : FileTree} {given : Except Fault Unit}
    (command : Command options tree writes given after) : writes.Leads tree after := by
  cases command with
  | unusable => exact Writes.leads_nil fun _ => rfl
  | jobs _ ran => exact ran.leads

theorem yields_generate_of_unusable {options : Options} {tree : FileTree} {reason : Config.Fault}
    (refused : Config.ofFile (tree.read options.config) = .error reason) :
    Yields (generate options) tree (.error (.config options.config reason)) tree := by
  refine (yields_note _).bind ((yields_read _).bind ?_)
  rw [refused]
  exact yields_throw _

theorem yields_generate_of_loaded {options : Options} {tree after : FileTree} {config : Config}
    {given : Except Fault Unit} (loaded : Config.ofFile (tree.read options.config) = .ok config)
    (yields : Yields (runJobs options ⟨config.style, options.dryRun⟩ config.jobs) tree given
      after) :
    Yields (generate options) tree given after := by
  refine (yields_note _).bind ((yields_read _).bind ?_)
  rw [loaded]
  refine Yields.noted ?_ _ _
  cases given with
  | error fault => exact yields.stop _
  | ok => exact yields.bind (((yields_note _).noted _ _).noted _ _)

theorem yields_generate (options : Options) (tree : FileTree) :
    ∃ writes given after, Yields (generate options) tree given after ∧
      Command options tree writes given after := by
  cases loaded : Config.ofFile (tree.read options.config) with
  | error reason => exact ⟨[], _, tree, yields_generate_of_unusable loaded, .unusable loaded⟩
  | ok config =>
      obtain ⟨writes, given, after, yields, ran⟩ :=
        yields_runJobs options ⟨config.style, options.dryRun⟩ config.jobs tree
      exact ⟨writes, given, after, yields_generate_of_loaded loaded yields, .jobs loaded ran⟩

/-- A command that fails leaves behind what the jobs before the fault stored: it keeps all files as
they were exactly if every file that was stored ends with the text that it had. -/
theorem sameFiles_iff_of_generate_failed (options : Options) (session : Session) (fault : Fault)
    (failed : answer (generate options) session = .error fault) :
    ∃ writes, Command options session.tree writes (.error fault)
        (treeAfter (generate options) session) ∧
      writes.Leads session.tree (treeAfter (generate options) session) ∧
      (SameFiles session.tree (treeAfter (generate options) session) ↔
        writes.AlreadyIn session.tree) := by
  obtain ⟨writes, given, after, yields, command⟩ := yields_generate options session.tree
  obtain rfl : given = .error fault := yields.answer_eq.symm.trans failed
  rw [yields.treeAfter_eq]
  exact ⟨writes, command, command.leads, command.leads.sameFiles_iff⟩

/-- The second of two jobs has no template. -/
def secondMissing : Session where
  tree := ⟨[], [([['y']], .file (.text
      "jobs:\n- template: a\n  output: b\n- template: c\n  output: d".toList)),
    ([['a']], .file (.text ['x']))]⟩
  log := []

/-- Run the jobs of the configuration. -/
def runAll : Options := ⟨⟨['y']⟩, none, false, ⟨[], []⟩⟩

/-- The fault of the second job. -/
def noTemplate : Fault := .generate ⟨['c']⟩ ⟨['d']⟩ (.disk ⟨['c']⟩ .notFound)

/-- The first output stays although the second job fails. -/
theorem generate_secondMissing :
    (answer (generate runAll) secondMissing,
      (treeAfter (generate runAll) secondMissing).file? [['b']]) =
    (.error noTemplate, some (.text (Template.banner ++ ['x', '\n']))) := by
  decide +kernel

theorem not_sameFiles_of_generate_failed :
    ¬∀ options session fault, answer (generate options) session = .error fault →
      SameFiles session.tree (treeAfter (generate options) session) := by
  intro all_or_nothing
  obtain ⟨failed, stays⟩ := Prod.mk.inj generate_secondMissing
  have same := all_or_nothing runAll secondMissing _ failed
  exact absurd ((same [['b']]).symm.trans stays) (by decide)

/-- The first output was not there before, so its text is none that was already in. -/
theorem sameFiles_iff_secondMissing :
    ∃ writes, answer (generate runAll) secondMissing = .error noTemplate ∧
      Command runAll secondMissing.tree writes (.error noTemplate)
        (treeAfter (generate runAll) secondMissing) ∧
      writes.Leads secondMissing.tree (treeAfter (generate runAll) secondMissing) ∧
      (SameFiles secondMissing.tree (treeAfter (generate runAll) secondMissing) ↔
        writes.AlreadyIn secondMissing.tree) ∧
      ¬SameFiles secondMissing.tree (treeAfter (generate runAll) secondMissing) := by
  obtain ⟨failed, stays⟩ := Prod.mk.inj generate_secondMissing
  obtain ⟨writes, command, leads, same_iff⟩ :=
    sameFiles_iff_of_generate_failed runAll secondMissing noTemplate failed
  have absent : secondMissing.tree.file? [['b']] = none := by decide
  have stored := leads [['b']]
  rw [stays, absent, Option.or_none] at stored
  obtain ⟨text, latest, _⟩ := Option.map_eq_some_iff.mp stored.symm
  have unstored : ¬writes.AlreadyIn secondMissing.tree := by
    intro already
    cases absent.symm.trans (already _ text latest)
  exact ⟨writes, failed, command, leads, same_iff, mt same_iff.mp unstored⟩

end Stencil.Project
