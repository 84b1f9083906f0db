import Stencil.Control
import Stencil.FileTree
import Stencil.Yaml.Node

/-!
# Configurations

A configuration lists jobs, each with a template and an output, and may set the style of control
blocks.  Keys that mean nothing are ignored, a known key stands once, and a configuration without
jobs is refused.
-/

namespace Stencil

/-- One template to turn into one file. -/
structure Job where
  /-- The name of the job, if it has one. -/
  name : Option Text
  /-- The path of the template, below the directory of the configuration. -/
  template : Path
  /-- The path of the generated file, below the output directory. -/
  output : Path
  /-- The job is to be run. -/
  enabled : Bool
  deriving DecidableEq

/-- The name of a job in the log and for patterns. -/
def Job.displayName (job : Job) : Text := job.name.getD job.template.text

/-- What to generate and how. -/
structure Config where
  /-- The jobs in order. -/
  jobs : List Job
  /-- The style of control blocks. -/
  style : Style
  deriving DecidableEq

namespace Config

/-- Why a configuration cannot be used. -/
inductive Fault where
  /-- The file cannot be read. -/
  | unreadable (error : DiskError)
  /-- The text is no configuration. -/
  | malformed
  /-- There are no jobs. -/
  | noJobs
  deriving DecidableEq

/-- The wording of a fault, and below it that of its cause. -/
def Fault.chain : Fault → List String
  | .unreadable error => [s!"Failed to read config file: {error.message}", error.message]
  | .malformed => ["Failed to parse YAML"]
  | .noJobs => ["Config declares no jobs"]

open Yaml (Node Document)

/-- Reading of values out of a document.  The state is the number of aliases followed so far. -/
abbrev Decoding := ReaderT Document (StateT Nat Option)

/-- A node, or the node that an alias stands for.  In the whole a document may be spread out by its
aliases to a hundred times its size. -/
def follow (node : Node) : Decoding Node := do
  match node with
  | .alias number =>
    let document ← read
    let followed ← get
    if 100 * document.size ≤ followed then failure
    else
      set (followed + 1)
      liftM (document.anchored.lookup number)
  | node => pure node

/-- The text of a scalar. -/
def readText (node : Node) : Decoding Text := do
  match ← follow node with
  | .scalar _ _ content => pure content
  | _ => failure

/-- The ways to write a plain null. -/
def nullWords : List Text := ["~".toList, "null".toList, "Null".toList, "NULL".toList]

/-- The tag of nulls. -/
def nullTag : Text := "tag:yaml.org,2002:null".toList

/-- The tag of truth values. -/
def boolTag : Text := "tag:yaml.org,2002:bool".toList

/-- A text that may be null.  Without a tag, an empty or null plain scalar is none; with the tag of
nulls a plain scalar has to be null; with any other tag it is text. -/
def readOptionalText (node : Node) : Decoding (Option Text) := do
  match ← follow node with
  | .scalar .plain none content =>
    pure (if content.isEmpty || nullWords.contains content then none else some content)
  | .scalar .plain (some tag) content =>
    if tag != nullTag then pure (some content)
    else if nullWords.contains content then pure none
    else failure
  | .scalar _ _ content => pure (some content)
  | _ => failure

/-- The truth value of a word. -/
def boolWord? (word : Text) : Option Bool :=
  match word.string with
  | "true" | "True" | "TRUE" => some true
  | "false" | "False" | "FALSE" => some false
  | _ => none

/-- A truth value, which is written plain, or as a literal block with the tag of truth values. -/
def readBool (node : Node) : Decoding Bool := do
  match ← follow node with
  | .scalar style tag content =>
    if style = .plain ∨ (style = .literal ∧ tag = some boolTag) then liftM (boolWord? content)
    else failure
  | _ => failure

/-- The items of a sequence; an empty plain scalar has none. -/
def readItems (node : Node) : Decoding (List Node) := do
  match ← follow node with
  | .sequence items => pure items
  | .scalar .plain _ [] => pure []
  | _ => failure

/-- The entries of a mapping with texts as keys; an empty plain scalar has none. -/
def readFields (node : Node) : Decoding (List (Text × Node)) := do
  match ← follow node with
  | .mapping entries => entries.mapM fun (key, value) => return (← readText key, value)
  | .scalar .plain _ [] => pure []
  | _ => failure

/-- The value of a key that stands at most once, decoded. -/
def readOptionalField {α : Type} (fields : List (Text × Node)) (key : String)
    (decode : Node → Decoding α) : Decoding (Option α) :=
  match fields.filter fun field => field.1 == key.toList with
  | [] => pure none
  | [(_, value)] => some <$> decode value
  | _ => failure

/-- The value of a key that stands once, decoded. -/
def readField {α : Type} (fields : List (Text × Node)) (key : String)
    (decode : Node → Decoding α) : Decoding α := do
  match ← readOptionalField fields key decode with
  | some value => pure value
  | none => failure

/-- A job. -/
def readJob (node : Node) : Decoding Job := do
  let fields ← readFields node
  let name ← readOptionalField fields "name" readOptionalText
  let template ← readField fields "template" readText
  let output ← readField fields "output" readText
  let enabled ← readOptionalField fields "enabled" readBool
  return ⟨name.join, ⟨template⟩, ⟨output⟩, enabled.getD true⟩

/-- A style; what it does not set is as usual. -/
def readStyle (node : Node) : Decoding Style := do
  let fields ← readFields node
  let declaration ← readOptionalField fields "declaration" readText
  let opening ← readOptionalField fields "open" readText
  let closing ← readOptionalField fields "close" readText
  return {
    declaration := declaration.getD Style.standard.declaration
    opening := opening.getD Style.standard.opening
    closing := closing.getD Style.standard.closing }

/-- A configuration, which may have no jobs yet. -/
def readConfig (node : Node) : Decoding Config := do
  let fields ← readFields node
  let jobs ← readField fields "jobs" fun node => do (← readItems node).mapM readJob
  let style ← readOptionalField fields "render" readStyle
  return ⟨jobs, style.getD Style.standard⟩

/-- The configuration of a document, which may have no jobs yet. -/
def ofDocument? (document : Document) : Option Config :=
  (((readConfig document.root).run document).run 0).map Prod.fst

/-- The configuration that a text stands for. -/
def ofText (text : Text) : Except Fault Config :=
  match (Document.ofText? text).bind ofDocument? with
  | none => .error .malformed
  | some config => if config.jobs.isEmpty then .error .noJobs else .ok config

/-- The configuration in a file, from the outcome of reading it. -/
def ofFile : Except DiskError Text → Except Fault Config
  | .ok text => ofText text
  | .error error => .error (.unreadable error)

end Config

end Stencil
