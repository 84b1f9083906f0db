import Stencil.Disk
import Stencil.Template

/-!
# Generating one file

A template file is read, turned into text, and the text is written to the output file.  Nothing is
written before the whole template is turned into text, and nothing at all in a dry run.
-/

namespace Stencil

/-- Turns template files into generated files. -/
structure Generator where
  /-- The style of control blocks. -/
  style : Style
  /-- Nothing is written. -/
  dryRun : Bool

namespace Generator

/-- Why a file cannot be generated. -/
inductive Fault where
  /-- The template is faulty. -/
  | template (fault : Stencil.Fault)
  /-- An operation on a path failed. -/
  | disk (path : Path) (error : DiskError)
  deriving DecidableEq

/-- The wording of a fault, and below it that of its cause. -/
def Fault.chain : Fault → List String
  | .template fault => [fault.message]
  | .disk path error => [s!"I/O error on {path.quoted}: {error.message}", error.message]

/-- The wording of a fault. -/
def Fault.message (fault : Fault) : String := fault.chain.headD ""

variable {m : Type → Type} [Monad m] [Disk m]

/-- Make the directory of an output file if it is missing. -/
def ensureParent (output : Path) : ExceptT Fault m Unit := do
  match output.parent? with
  | none => pure ()
  | some parent =>
    if ← Disk.has parent then pure ()
    else
      match ← Disk.makeDirectories parent with
      | .ok () => pure ()
      | .error error => throw (.disk parent error)

/-- Write a generated text. -/
def store (output : Path) (generated : Text) : ExceptT Fault m Unit := do
  ensureParent output
  match ← Disk.write output generated with
  | .error error =>
    Disk.note (.error s!"Failed to write generated file: {output.quoted}")
    throw (.disk output error)
  | .ok () => Disk.note (.info output.quoted)

/-- Generate a file from a template and return the generated text. -/
def generate (generator : Generator) (template output : Path) : ExceptT Fault m Text := do
  if output.fileName?.isNone then
    Disk.note (.error s!"Output path must have a filename: {output.quoted}")
    throw (.disk output .missingFileName)
  else
    Disk.note (.info s!"Reading template {template.quoted}")
    match ← Disk.read template with
    | .error error =>
      Disk.note (.error s!"Failed to read template file: {template.quoted}")
      throw (.disk template error)
    | .ok text =>
      Disk.noteAll (Template.journal generator.style text)
      match Template.generate generator.style text with
      | .error fault => throw (.template fault)
      | .ok generated =>
        if generator.dryRun then
          Disk.note (.info s!"[DRY RUN] Would write: {output.quoted}")
        else store output generated
        return generated

end Generator

end Stencil
