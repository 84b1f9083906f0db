import Stencil.Config
import Stencil.Generator
import Stencil.Pattern

/-!
# Projects

A project is a directory with a configuration.  `Project.init` sets one up with a first template,
and `Project.generate` runs the jobs of a configuration in order and stops at the first that fails.
-/

namespace Stencil.Project

/-- The name of a configuration file. -/
def configFile : Path := ⟨"flatgen.yaml".toList⟩

/-- The name of the first template. -/
def templateFile : Path := ⟨"controls.template.cs".toList⟩

/-- The configuration of a new project. -/
def configContent : Text :=
  ("jobs:\n"
    ++ "  - name: controls\n"
    ++ "    template: controls.template.cs\n"
    ++ "    output: controls.cs\n"
    ++ "    enabled: true\n"
    ++ "\n"
    ++ "render:\n"
    ++ "  declaration: \"    public class \x7bname\x7d : \x7bbase\x7d\"\n"
    ++ "  open: \"    \x7b\"\n"
    ++ "  close: \"    \x7d\"\n").toList

/-- The first template of a new project. -/
def templateContent : Text :=
  ("using System.Windows.Forms;\n"
    ++ "\n"
    ++ "namespace Controls\n"
    ++ "\x7b\n"
    ++ "    // -- begin types --\n"
    ++ "    // -- Btn : Button --\n"
    ++ "        public Btn(string text, Control parent) \x7b\n"
    ++ "            this.Text = text;\n"
    ++ "            parent.Controls.Add(this);\n"
    ++ "        \x7d\n"
    ++ "    // -- Tb : TextBox --\n"
    ++ "        public Tb(Control parent) \x7b\n"
    ++ "            parent.Controls.Add(this);\n"
    ++ "        \x7d\n"
    ++ "    // -- end types --\n"
    ++ "\n"
    ++ "    // -- begin control copy --\n"
    ++ "    // -- foreach name, amount in [('Right', 1), ('Left', -1)] --\n"
    ++ "        public void Nudge\x7b\x7bname\x7d\x7d() \x7b\n"
    ++ "            this.Left += \x7b\x7bamount\x7d\x7d;\n"
    ++ "        \x7d\n"
    ++ "    // -- endforeach --\n"
    ++ "    // -- end control copy --\n"
    ++ "    // -- write controls --\n"
    ++ "\x7d\n").toList

/-- Why a command fails. -/
inductive Fault where
  /-- A new project would replace a configuration. -/
  | exists (path : Path)
  /-- An operation on files failed. -/
  | disk (error : DiskError)
  /-- The configuration cannot be used. -/
  | config (path : Path) (fault : Config.Fault)
  /-- A file cannot be generated. -/
  | generate (template output : Path) (fault : Generator.Fault)
  deriving DecidableEq

namespace Fault

/-- The wording of a fault and below it those of its causes, the innermost last. -/
def chain : Fault → List String
  | .exists path => [s!"{path.quoted} already exists"]
  | .disk error => [error.message]
  | .config path fault => s!"Failed to load config {path.quoted}" :: fault.chain
  | .generate template output fault =>
    s!"Failed to generate {output.quoted} from {template.quoted}" :: fault.chain

/-- A cause with its lines indented. -/
def indented (cause : String) : Text := (cause.toList.splitOn '\n').flatMap fun line =>
  "\n    ".toList ++ line

/-- The report of a fault: its wording, and below it one cause, or several with numbers. -/
def report (fault : Fault) : String :=
  let (message, causes) := match fault.chain with
    | [] => ("", [])
    | message :: causes => (message, causes)
  let below := match causes with
    | [] => []
    | [cause] => "\n\nCaused by:".toList ++ indented cause
    | causes =>
      "\n\nCaused by:".toList ++ causes.zipIdx.flatMap fun (cause, index) =>
        indented s!"{index}: {cause}"
  "Error: " ++ message ++ Text.string below ++ "\n"

end Fault

variable {m : Type → Type} [Monad m] [Disk m]

/-- A step on files that ends the command if it fails. -/
def check (step : m (Except DiskError Unit)) : ExceptT Fault m Unit := do
  match ← step with
  | .ok () => pure ()
  | .error error => throw (.disk error)

/-- Set up a project in a directory that has no configuration. -/
def init (directory : Path) : ExceptT Fault m Unit := do
  Disk.note (.info s!"Initializing flatgen project at {directory.quoted}")
  let config := directory.join configFile
  if ← Disk.has config then throw (.exists config)
  else
    check (Disk.makeDirectories directory)
    check (Disk.write config configContent)
    check (Disk.write (directory.join templateFile) templateContent)
    Disk.note (.info "✓ Project initialized successfully!")
    Disk.note (.info s!"  Run: flatgen -c {config.quoted}")

/-- How jobs are run. -/
structure Options where
  /-- The configuration. -/
  config : Path
  /-- The directory of the outputs, if it is not that of the configuration. -/
  output : Option Path
  /-- Nothing is written. -/
  dryRun : Bool
  /-- The jobs to run, by name. -/
  selection : Selection

namespace Options

/-- The directory of the configuration, where templates are. -/
def base (options : Options) : Path := options.config.parent?.getD ⟨['.']⟩

/-- The directory where outputs are. -/
def outputBase (options : Options) : Path := options.output.getD options.base

/-- The template of a job. -/
def templatePath (options : Options) (job : Job) : Path := options.base.join job.template

/-- The output of a job. -/
def outputPath (options : Options) (job : Job) : Path := options.outputBase.join job.output

/-- An enabled job with a name is left out if the name is not selected. -/
def leavesOut (options : Options) (job : Job) : Bool :=
  job.name.isSome && options.selection.rejects job.displayName

/-- A job is run. -/
def runs (options : Options) (job : Job) : Bool := job.enabled && !options.leavesOut job

end Options

/-- Run one job. -/
def runJob (options : Options) (generator : Generator) (job : Job) : ExceptT Fault m Unit := do
  let template := options.templatePath job
  let output := options.outputPath job
  Disk.note (.info
    s!"Generating {job.displayName.string}: {template.quoted} -> {output.quoted}")
  match ← (generator.generate template output : ExceptT Generator.Fault m Text).run with
  | .ok _ => pure ()
  | .error fault => throw (.generate template output fault)

/-- Tell about a job that is not run. -/
def skipJob (job : Job) : m Unit := do
  if !job.enabled then
    Disk.note (.info s!"Skipping disabled job: {job.displayName.string}")
  else
    Disk.note (.info s!"Skipping job: {job.displayName.string}")

/-- What is told while it is decided whether an enabled job is run. -/
def selectionJournal (options : Options) (job : Job) : List Record :=
  if job.enabled && job.name.isSome then options.selection.journal job.displayName else []

/-- Run jobs in order up to the first that fails, leaving out those that are not to be run. -/
def runJobs (options : Options) (generator : Generator) : List Job → ExceptT Fault m Unit
  | [] => pure ()
  | job :: rest => do
    Disk.noteAll (selectionJournal options job)
    if options.runs job then runJob options generator job else skipJob job
    runJobs options generator rest

/-- Run the jobs of a configuration. -/
def generate (options : Options) : ExceptT Fault m Unit := do
  Disk.note (.info s!"Loading config from {options.config.quoted}")
  match Config.ofFile (← Disk.read options.config) with
  | .error fault => throw (.config options.config fault)
  | .ok config =>
    if options.dryRun then Disk.note (.info "=== DRY RUN MODE ===")
    runJobs options ⟨config.style, options.dryRun⟩ config.jobs
    if !config.jobs.any options.runs then Disk.note (.warn "No job was run")
    if options.dryRun then Disk.note (.info "=== DRY RUN COMPLETE ===")
    Disk.note (.info "Done")

end Stencil.Project
