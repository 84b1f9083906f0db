import Stencil.Proofs.Project.Batch

/-!
# Jobs that are left out

A job that is disabled, or whose name the patterns reject, has no part in what a command does to the
files: the jobs come to the same as the others run one after the other.  Which names are rejected
depends on the patterns alone, neither on their order nor on how often they are given.
-/

namespace Stencil

/-! ## Patterns -/

namespace Selection

/-- A name is rejected if it has to match a pattern and matches none, or if it matches an excluded
one. -/
theorem rejects_iff (selection : Selection) (name : Text) :
    selection.rejects name = true ↔
      (selection.including ≠ [] ∧
        ∀ pattern ∈ selection.including, Pattern.matchesName pattern name = false) ∨
      ∃ pattern ∈ selection.excluding, Pattern.matchesName pattern name = true := by
  simp [rejects, misses]

/-- The selections have the same patterns, in whatever order and however often. -/
structure SamePatterns (first second : Selection) : Prop where
  including : ∀ pattern, pattern ∈ first.including ↔ pattern ∈ second.including
  excluding : ∀ pattern, pattern ∈ first.excluding ↔ pattern ∈ second.excluding

theorem SamePatterns.rejects_eq {first second : Selection} (same : first.SamePatterns second)
    (name : Text) : first.rejects name = second.rejects name := by
  have empty_iff : first.including = [] ↔ second.including = [] := by
    simp only [List.eq_nil_iff_forall_not_mem, same.including]
  rw [Bool.eq_iff_iff, rejects_iff, rejects_iff, ne_eq, ne_eq, empty_iff]
  simp only [same.including, same.excluding]

end Selection

namespace Project

open InMemory (SameOutcome Yields yields_pure yields_noteAll)
open Generator (outcome_generate)

/-! ## Jobs -/

/-- A job is enabled, and its name is not rejected if it has one. -/
def Options.selects (options : Options) (job : Job) : Bool :=
  job.enabled && job.name.all fun name => !options.selection.rejects name

variable {options : Options} {generator : Generator} {selection : Selection}

theorem Options.runs_eq_selects (options : Options) (job : Job) :
    options.runs job = options.selects job := by
  cases named : job.name <;> simp [runs, leavesOut, selects, Job.displayName, named]

/-- Options with the same patterns run the same jobs. -/
theorem runs_withSelection (same : selection.SamePatterns options.selection) (job : Job) :
    Options.runs { options with selection } job = options.selects job := by
  rw [Options.runs_eq_selects, Options.selects, Options.selects]
  simp only [same.rejects_eq]

/-- What a job comes to does not depend on the log. -/
theorem sameOutcome_runJob (options : Options) (generator : Generator) (job : Job) :
    SameOutcome (runJob options generator job) (runJob options generator job) := by
  intro tree
  obtain ⟨given, after, generated, _⟩ :=
    outcome_generate generator (options.templatePath job) (options.outputPath job) tree
  exact ⟨_, after, yields_runJob generated, yields_runJob generated⟩

/-- The jobs come to the same as the selected ones run one after the other. -/
theorem sameOutcome_runJobs_forM (same : selection.SamePatterns options.selection)
    (generator : Generator) (jobs : List Job) :
    SameOutcome (runJobs { options with selection } generator jobs)
      (forM (jobs.filter options.selects) (runJob options generator)) := by
  induction jobs with
  | nil => exact fun tree => ⟨.ok (), tree, yields_pure (), yields_pure ()⟩
  | cons job rest ih =>
      have runs := runs_withSelection same job
      cases selected : options.selects job with
      | false =>
          rw [List.filter_cons_of_neg (by simp [selected])]
          refine .of_silent (fun tree => yields_noteAll _) ?_
          rw [runs, selected]
          exact .of_silent (yields_skipJob job) ih
      | true =>
          rw [List.filter_cons_of_pos selected, List.forM_cons]
          refine .of_silent (fun tree => yields_noteAll _) ?_
          rw [runs, selected]
          exact (sameOutcome_runJob options generator job).bind fun _ => ih

/-- Jobs that are left out and the order of the patterns do not matter: under options with the same
patterns the jobs come to the same as the selected ones alone, which in turn are run one after the
other without a look at the patterns.  A name is rejected if it has to match a pattern and matches
none, or if it matches an excluded one. -/
theorem runJobs_selected (options : Options) (selection : Selection)
    (same : selection.SamePatterns options.selection) (generator : Generator) (jobs : List Job) :
    SameOutcome (runJobs { options with selection } generator jobs)
      (runJobs options generator (jobs.filter options.selects)) ∧
    SameOutcome (runJobs { options with selection } generator jobs)
      (forM (jobs.filter options.selects) (runJob options generator)) ∧
    ∀ name, selection.rejects name = true ↔
      (selection.including ≠ [] ∧
        ∀ pattern ∈ selection.including, Pattern.matchesName pattern name = false) ∨
      ∃ pattern ∈ selection.excluding, Pattern.matchesName pattern name = true := by
  have all_jobs := sameOutcome_runJobs_forM same generator jobs
  have own : options.selection.SamePatterns options.selection := ⟨fun _ => .rfl, fun _ => .rfl⟩
  have chosen := sameOutcome_runJobs_forM own generator (jobs.filter options.selects)
  rw [List.filter_filter] at chosen
  simp only [Bool.and_self] at chosen
  exact ⟨all_jobs.trans chosen.symm, all_jobs, selection.rejects_iff⟩

/-- Two patterns to match, and an expression that cannot be used. -/
def someSelection : Selection := ⟨["a".toList, "b*".toList], ["regex:(".toList]⟩

/-- The same patterns in another order, one of them twice. -/
def reorderedSelection : Selection :=
  ⟨["b*".toList, "a".toList, "b*".toList], ["regex:(".toList, "regex:(".toList]⟩

theorem samePatterns_reordered : reorderedSelection.SamePatterns someSelection where
  including pattern := by
    simp only [reorderedSelection, someSelection, List.mem_cons, List.not_mem_nil, or_false]
    tauto
  excluding pattern := by simp [reorderedSelection, someSelection]

/-- A job that is selected, one whose name is not, and one that is disabled. -/
def threeJobs : List Job :=
  [⟨some "bc".toList, ⟨['t']⟩, ⟨['o']⟩, true⟩, ⟨some "c".toList, ⟨['t']⟩, ⟨['p']⟩, true⟩,
    ⟨none, ⟨['t']⟩, ⟨['q']⟩, false⟩]

theorem runJobs_selected_threeJobs :
    reorderedSelection.SamePatterns someSelection ∧
    SameOutcome
      (runJobs ⟨⟨['y']⟩, none, false, reorderedSelection⟩ ⟨.standard, false⟩ threeJobs)
      (runJobs ⟨⟨['y']⟩, none, false, someSelection⟩ ⟨.standard, false⟩
        [⟨some "bc".toList, ⟨['t']⟩, ⟨['o']⟩, true⟩]) := by
  obtain ⟨alike, _⟩ := runJobs_selected ⟨⟨['y']⟩, none, false, someSelection⟩ reorderedSelection
    samePatterns_reordered ⟨.standard, false⟩ threeJobs
  have chosen : threeJobs.filter (Options.selects ⟨⟨['y']⟩, none, false, someSelection⟩) =
      [⟨some "bc".toList, ⟨['t']⟩, ⟨['o']⟩, true⟩] := by decide +kernel
  rw [chosen] at alike
  exact ⟨samePatterns_reordered, alike⟩

end Project

end Stencil
