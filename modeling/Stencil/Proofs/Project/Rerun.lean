import Stencil.Proofs.Generator.Again
import Stencil.Proofs.Project.Batch

/-!
# Running a command again

A command that succeeds stores one text for each job that is run.  `Completed` follows it write by
write, which fixes the tree to the last entry and not only what its locations hold.  If no output is
the configuration or a template, a second command reads what the first one read, finds the
directories standing and stores the same texts at the same locations.  The last text stored at each
location is already there, so the tree ends as it started.
-/

namespace Stencil

/-! ## Paths that lead to the same place -/

namespace FileTree

/-- The location of the entry to which a path leads. -/
def place? (tree : FileTree) (path : Path) : Option Location :=
  match tree.resolve path with
  | .ok (.entry location) => some location
  | _ => none

/-- Both paths lead to the same entry. -/
def SameEntry (tree : FileTree) (first second : Path) : Prop :=
  tree.place? first ≠ none ∧ tree.place? first = tree.place? second

instance (tree : FileTree) (first second : Path) : Decidable (tree.SameEntry first second) :=
  inferInstanceAs (Decidable (_ ∧ _))

theorem place?_eq_some {tree : FileTree} {path : Path} {location : Location}
    (leads : tree.resolve path = .ok (.entry location)) : tree.place? path = some location := by
  rw [place?, leads]

theorem sameEntry_of_resolve {tree : FileTree} {first second : Path} {location : Location}
    (first_leads : tree.resolve first = .ok (.entry location))
    (second_leads : tree.resolve second = .ok (.entry location)) :
    tree.SameEntry first second := by
  rw [SameEntry, place?_eq_some first_leads, place?_eq_some second_leads]
  exact ⟨Option.some_ne_none location, rfl⟩

end FileTree

namespace Project

open FileTree (KeepsItems Rewritten)
open Generator (Ensured outcome_generate prepare_of_read_eq yields_generate_of_writable
  yields_generate_ok_iff)
open InMemory (Yields answer treeAfter yields_pure)

/-! ## Jobs that all succeed -/

/-- What jobs that all succeed do to a tree: one after the other makes the directory of its output
and puts its text where the output leads. -/
inductive Completed (options : Options) (generator : Generator) :
    FileTree → List Job → Writes → FileTree → Prop where
  /-- No job is left. -/
  | done (tree : FileTree) : Completed options generator tree [] [] tree
  /-- A job is not to be run. -/
  | leftOut {tree after : FileTree} {job : Job} {rest : List Job} {writes : Writes}
    (not_run : options.runs job = false)
    (later : Completed options generator tree rest writes after) :
    Completed options generator tree (job :: rest) writes after
  /-- A job stores its text, and the next one starts from there. -/
  | stored {tree grown after : FileTree} {job : Job} {rest : List Job} {writes : Writes}
    {text : Text} {location : Location} (runs : options.runs job = true)
    (real_run : generator.dryRun = false)
    (prepared : generator.prepare (options.templatePath job) (options.outputPath job) tree =
      .ok text)
    (ensured : Ensured (options.outputPath job) tree (.ok ()) grown)
    (writable : grown.Writable (options.outputPath job) location)
    (later : Completed options generator (grown.put location (.file (.text text))) rest writes
      after) :
    Completed options generator tree (job :: rest) ((location, text) :: writes) after

section Jobs

variable {options : Options} {generator : Generator} {jobs : List Job} {tree after : FileTree}
  {writes : Writes} {location : Location}

theorem Completed.yields (completed : Completed options generator tree jobs writes after) :
    Yields (runJobs options generator jobs) tree (.ok ()) after := by
  induction completed with
  | done tree => exact yields_pure ()
  | leftOut not_run _ ih => exact yields_runJobs_of_leftOut not_run ih
  | stored runs real_run prepared ensured writable _ ih =>
      exact yields_runJobs_of_ok runs
        (yields_generate_of_writable prepared real_run ensured writable) ih

theorem Completed.ran (completed : Completed options generator tree jobs writes after) :
    Ran options generator tree jobs writes (.ok ()) after := by
  induction completed with
  | done tree => exact .done tree
  | leftOut not_run _ ih => exact .leftOut not_run ih
  | stored runs real_run prepared ensured writable _ ih =>
      exact .stored runs real_run prepared (writable.stores ensured.grows _) ih

theorem exists_completed (real_run : generator.dryRun = false)
    (yields : Yields (runJobs options generator jobs) tree (.ok ()) after) :
    ∃ writes, Completed options generator tree jobs writes after := by
  -- A run has one outcome, so whatever a job comes to has to lead to success.
  induction jobs generalizing tree with
  | nil =>
      obtain ⟨_, rfl⟩ := yields.unique (yields_pure ())
      exact ⟨[], .done after⟩
  | cons job rest ih =>
      cases runs : options.runs job with
      | false =>
          obtain ⟨_, given, left, later, _⟩ := yields_runJobs options generator rest tree
          obtain ⟨rfl, rfl⟩ := yields.unique (yields_runJobs_of_leftOut runs later)
          obtain ⟨writes, completed⟩ := ih later
          exact ⟨writes, .leftOut runs completed⟩
      | true =>
          obtain ⟨given, middle, generated, _⟩ :=
            outcome_generate generator (options.templatePath job) (options.outputPath job) tree
          cases given with
          | error fault =>
              obtain ⟨refused, _⟩ := yields.unique (yields_runJobs_of_error runs generated rest)
              cases refused
          | ok text =>
              obtain ⟨_, given, left, later, _⟩ := yields_runJobs options generator rest middle
              obtain ⟨rfl, rfl⟩ := yields.unique (yields_runJobs_of_ok runs generated later)
              obtain ⟨prepared, grown, location, ensured, writable, rfl⟩ :=
                (yields_generate_ok_iff real_run).mp generated
              obtain ⟨writes, completed⟩ := ih later
              exact ⟨_, .stored runs real_run prepared ensured writable completed⟩

/-! ## What the jobs leave -/

theorem Completed.keepsItems (completed : Completed options generator tree jobs writes after) :
    KeepsItems tree after := by
  induction completed with
  | done tree => exact .refl tree
  | leftOut _ _ ih => exact ih
  | stored _ _ _ ensured writable _ ih =>
      exact (ensured.grows.keepsItems.trans (writable.keepsItems _)).trans ih

/-- Every location that was written is still where the output of a job leads. -/
theorem Completed.exists_output (completed : Completed options generator tree jobs writes after)
    (written : location ∈ writes.map Prod.fst) :
    ∃ job ∈ jobs, options.runs job = true ∧
      after.resolve (options.outputPath job) = .ok (.entry location) := by
  induction completed with
  | done => cases written
  | leftOut _ _ ih =>
      obtain ⟨job, member, output⟩ := ih written
      exact ⟨job, List.mem_cons_of_mem _ member, output⟩
  | @stored _ _ _ job _ _ text _ runs _ _ _ writable later ih =>
      rcases List.mem_cons.mp written with rfl | written_later
      · have led := (writable.keeps text).resolve writable.leads
        exact ⟨job, List.mem_cons_self, runs, later.keepsItems.resolve led⟩
      · obtain ⟨job, member, output⟩ := ih written_later
        exact ⟨job, List.mem_cons_of_mem _ member, output⟩

theorem Writes.latest?_eq_none_iff (writes : Writes) (location : Location) :
    writes.latest? location = none ↔ location ∉ writes.map Prod.fst := by
  induction writes with
  | nil => simp [latest?]
  | cons first rest ih =>
      obtain ⟨place, text⟩ := first
      rw [latest?_cons, Option.or_eq_none_iff, ih]
      simp [and_comm]

theorem Completed.file?_eq (completed : Completed options generator tree jobs writes after)
    (unwritten : location ∉ writes.map Prod.fst) : after.file? location = tree.file? location := by
  rw [completed.ran.leads location, (writes.latest?_eq_none_iff location).mpr unwritten]
  rfl

theorem Completed.read_eq (completed : Completed options generator tree jobs writes after)
    {path : Path} {text : Text} (read : tree.read path = .ok text)
    (apart : ∀ location ∈ writes.map Prod.fst, after.resolve path ≠ .ok (.entry location)) :
    after.read path = .ok text := by
  refine completed.keepsItems.read_eq read fun location leads => ?_
  have still_leads := completed.keepsItems.resolve leads
  exact completed.file?_eq fun written => apart location written still_leads

/-- A text stands at every location that was written. -/
theorem Completed.rewritten (completed : Completed options generator tree jobs writes after) :
    Rewritten (writes.map Prod.fst) after after where
  workdir := rfl
  other _ _ := rfl
  place location written := by
    have leads := completed.ran.leads location
    cases latest : writes.latest? location with
    | none => exact absurd written ((writes.latest?_eq_none_iff location).mp latest)
    | some text =>
        rw [latest] at leads
        exact ⟨text, (after.file?_eq_some_iff location _).mp leads⟩

theorem Completed.put_eq {item : Item}
    (completed : Completed options generator tree jobs writes after)
    (unwritten : location ∉ writes.map Prod.fst) (in_place : tree.put location item = tree) :
    after.put location item = after := by
  induction completed with
  | done => exact in_place
  | leftOut _ _ ih => exact ih unwritten in_place
  | stored _ _ _ ensured _ _ ih =>
      obtain ⟨apart, unwritten_later⟩ :=
        not_or.mp fun written => unwritten (List.mem_cons.mpr written)
      exact ih unwritten_later (FileTree.put_eq_of_put (ensured.put_eq in_place) apart _)

/-- Writing the texts once more changes nothing: a text that is not the last one at its location is
overwritten as before, and the last one is in place. -/
theorem Completed.rewrite_eq (completed : Completed options generator tree jobs writes after) :
    after.rewrite writes = after := by
  induction completed with
  | done => rfl
  | leftOut _ _ ih => exact ih
  | @stored _ grown after _ _ writes text location _ _ _ _ _ later ih =>
      rw [FileTree.rewrite_cons]
      by_cases written_later : location ∈ writes.map Prod.fst
      · obtain ⟨_, found⟩ := later.rewritten.place location written_later
        rw [FileTree.rewrite_put written_later (FileTree.lists_of_file found), ih]
      · rw [later.put_eq written_later (grown.put_put location _ _), ih]

/-! ## The same jobs again -/

/-- On a tree that differs from the one that the jobs left at most by texts at places that no
template is at, the jobs store the same texts at the same locations. -/
theorem Completed.again {places : List Location} {now : FileTree}
    (completed : Completed options generator tree jobs writes after)
    (texts : Rewritten places after after) (now_rewritten : Rewritten places after now)
    (within : ∀ location ∈ writes.map Prod.fst, location ∈ places)
    (apart : ∀ job ∈ jobs, options.runs job = true → ∀ location ∈ places,
      after.resolve (options.templatePath job) ≠ .ok (.entry location)) :
    Completed options generator now jobs writes (now.rewrite writes) := by
  -- `tree` is where the first run has come to and `now` where the second one has.  What a job found
  -- in `tree` stays up to `after`, and `now` differs from `after` only at the places.
  induction completed generalizing now with
  | done => exact .done now
  | leftOut not_run _ ih =>
      refine .leftOut not_run (ih texts now_rewritten within fun job member => ?_)
      exact apart job (List.mem_cons_of_mem _ member)
  | @stored tree grown after job rest writes text location runs real_run prepared ensured writable
      later ih =>
      have whole : Completed options generator tree (job :: rest) ((location, text) :: writes)
          after := .stored runs real_run prepared ensured writable later
      have is_place : location ∈ places := within location List.mem_cons_self
      have template_apart := apart job List.mem_cons_self runs
      have keeps : KeepsItems grown now :=
        ((writable.keepsItems text).trans later.keepsItems).trans (texts.keepsItems now_rewritten)
      have prepared_again : generator.prepare (options.templatePath job) (options.outputPath job)
          now = .ok text := by
        refine prepare_of_read_eq prepared fun source read => ?_
        have read_after := whole.read_eq read fun other written =>
          template_apart other (within other written)
        exact texts.read_eq now_rewritten read_after template_apart
      have writable_again : now.Writable (options.outputPath job) location := by
        obtain ⟨_, found⟩ := now_rewritten.place location is_place
        exact writable.later keeps.toKeepsDirectories (by simp [found])
      refine .stored runs real_run prepared_again (.stood (ensured.parentStands.later keeps))
        writable_again ?_
      exact ih texts (now_rewritten.put is_place text)
        (fun other written => within other (List.mem_cons_of_mem _ written))
        fun other member => apart other (List.mem_cons_of_mem _ member)

end Jobs

/-! ## The same command again -/

/-- The jobs of the configuration that are run. -/
def Options.jobsRun (options : Options) (tree : FileTree) : List Job :=
  match Config.ofFile (tree.read options.config) with
  | .ok config => config.jobs.filter options.runs
  | .error _ => []

/-- No job has its output at the configuration or at the template of one of the jobs. -/
def OutputsApart (options : Options) (jobs : List Job) (tree : FileTree) : Prop :=
  ∀ job ∈ jobs, ¬tree.SameEntry (options.outputPath job) options.config ∧
    ∀ other ∈ jobs, ¬tree.SameEntry (options.outputPath job) (options.templatePath other)

instance (options : Options) (jobs : List Job) (tree : FileTree) :
    Decidable (OutputsApart options jobs tree) :=
  inferInstanceAs (Decidable (∀ _ ∈ _, _))

section Command

variable {options : Options} {tree after : FileTree} {config : Config} {writes : Writes}

theorem mem_jobsRun_iff (loaded : Config.ofFile (tree.read options.config) = .ok config)
    (job : Job) :
    job ∈ options.jobsRun tree ↔ job ∈ config.jobs ∧ options.runs job = true := by
  rw [Options.jobsRun, loaded]
  exact List.mem_filter

/-- What a command that succeeds stores is neither at the configuration nor at a template. -/
theorem OutputsApart.resolve_ne {generator : Generator}
    (apart : OutputsApart options (options.jobsRun tree) after)
    (loaded : Config.ofFile (tree.read options.config) = .ok config)
    (completed : Completed options generator tree config.jobs writes after) {location : Location}
    (written : location ∈ writes.map Prod.fst) :
    after.resolve options.config ≠ .ok (.entry location) ∧
      ∀ job ∈ config.jobs, options.runs job = true →
        after.resolve (options.templatePath job) ≠ .ok (.entry location) := by
  obtain ⟨job, member, runs, output⟩ := completed.exists_output written
  obtain ⟨config_apart, templates_apart⟩ :=
    apart job ((mem_jobsRun_iff loaded job).mpr ⟨member, runs⟩)
  refine ⟨fun leads => ?_, fun other other_member other_runs leads => ?_⟩
  · exact config_apart (FileTree.sameEntry_of_resolve output leads)
  · exact templates_apart other ((mem_jobsRun_iff loaded other).mpr ⟨other_member, other_runs⟩)
      (FileTree.sameEntry_of_resolve output leads)

theorem exists_completed_of_generate (real_run : options.dryRun = false)
    (yields : Yields (generate options) tree (.ok ()) after) :
    ∃ config writes, Config.ofFile (tree.read options.config) = .ok config ∧
      Completed options ⟨config.style, options.dryRun⟩ tree config.jobs writes after := by
  cases loaded : Config.ofFile (tree.read options.config) with
  | error reason =>
      obtain ⟨refused, _⟩ := yields.unique (yields_generate_of_unusable loaded)
      cases refused
  | ok config =>
      obtain ⟨_, given, left, ran, _⟩ :=
        yields_runJobs options ⟨config.style, options.dryRun⟩ config.jobs tree
      obtain ⟨rfl, rfl⟩ := yields.unique (yields_generate_of_loaded loaded ran)
      obtain ⟨writes, completed⟩ := exists_completed real_run ran
      exact ⟨config, writes, rfl, completed⟩

theorem ofFile_read_of_loaded {path : Path}
    (loaded : Config.ofFile (tree.read path) = .ok config)
    (read_eq : ∀ text, tree.read path = .ok text → after.read path = .ok text) :
    Config.ofFile (after.read path) = .ok config := by
  cases read : tree.read path with
  | error error =>
      rw [read] at loaded
      cases loaded
  | ok text => rwa [read_eq text read, ← read]

end Command

/-- A command that succeeded can be run again if no output is at the configuration or at a template.
It succeeds, stores the same texts at the same locations, and leaves the tree as it is.  An output
may lead to a template through a directory that the command makes, so where paths lead is judged in
the tree that the command left. -/
theorem generate_rerun (options : Options) (session : Session) (log : List Record)
    (real_run : options.dryRun = false) (succeeded : answer (generate options) session = .ok ())
    (apart : OutputsApart options (options.jobsRun session.tree)
      (treeAfter (generate options) session)) :
    let after := treeAfter (generate options) session
    answer (generate options) ⟨after, log⟩ = .ok () ∧
    treeAfter (generate options) ⟨after, log⟩ = after ∧
    ∃ writes, Command options session.tree writes (.ok ()) after ∧
      Command options after writes (.ok ()) after := by
  intro after
  obtain ⟨_, given, left, yields, _⟩ := yields_generate options session.tree
  obtain rfl : given = .ok () := yields.answer_eq.symm.trans succeeded
  obtain rfl : after = left := yields.treeAfter_eq
  obtain ⟨config, writes, loaded, completed⟩ := exists_completed_of_generate real_run yields
  have written_apart {location : Location} (written : location ∈ writes.map Prod.fst) :=
    apart.resolve_ne loaded completed written
  have loaded_again : Config.ofFile (after.read options.config) = .ok config :=
    ofFile_read_of_loaded loaded fun text read =>
      completed.read_eq read fun location written => (written_apart written).1
  have again : Completed options ⟨config.style, options.dryRun⟩ after config.jobs writes after := by
    have stored_again := completed.again completed.rewritten completed.rewritten
      (fun location written => written)
      fun job member runs location written => (written_apart written).2 job member runs
    rwa [completed.rewrite_eq] at stored_again
  have yields_again : Yields (generate options) (Session.mk after log).tree (.ok ()) after :=
    yields_generate_of_loaded loaded_again again.yields
  exact ⟨yields_again.answer_eq, yields_again.treeAfter_eq, writes, .jobs loaded completed.ran,
    .jobs loaded_again again.ran⟩

/-- Two jobs share an output in a directory that is not there yet, and the second one reaches it
through another such directory. -/
def sharedOutput : Session where
  tree := ⟨[], [([['y']], .file (.text
      "jobs:\n- template: a\n  output: d/o\n- template: c\n  output: d/e/../o".toList)),
    ([['a']], .file (.text ['x'])), ([['c']], .file (.text ['z']))]⟩
  log := []

theorem generate_rerun_sharedOutput :
    let after := treeAfter (generate runAll) sharedOutput
    answer (generate runAll) sharedOutput = .ok () ∧
    OutputsApart runAll (runAll.jobsRun sharedOutput.tree) after ∧
    after.file? [['d'], ['o']] = some (.text (Template.banner ++ ['z', '\n'])) ∧
    answer (generate runAll) ⟨after, []⟩ = .ok () ∧
    treeAfter (generate runAll) ⟨after, []⟩ = after := by
  intro after
  have first_run : answer (generate runAll) sharedOutput = .ok () ∧
      OutputsApart runAll (runAll.jobsRun sharedOutput.tree) after ∧
      after.file? [['d'], ['o']] = some (.text (Template.banner ++ ['z', '\n'])) := by
    decide +kernel
  obtain ⟨succeeded, apart, last_wins⟩ := first_run
  obtain ⟨succeeds, unchanged, _⟩ :=
    generate_rerun runAll sharedOutput [] rfl succeeded apart
  exact ⟨succeeded, apart, last_wins, succeeds, unchanged⟩

end Project

end Stencil
