import Stencil.CommandLine
import Stencil.Config
import Stencil.Control
import Stencil.Directive
import Stencil.Disk
import Stencil.Fault
import Stencil.FileTree
import Stencil.Generator
import Stencil.Line
import Stencil.Literal.Basic
import Stencil.Literal.Fault
import Stencil.Literal.Reader
import Stencil.Loop
import Stencil.Main
import Stencil.Number.Decimal
import Stencil.Number.Double
import Stencil.Number.Hex
import Stencil.Number.Shortest
import Stencil.Path
import Stencil.Pattern
import Stencil.Placeholder
import Stencil.Project
import Stencil.Record
import Stencil.Regex.Automaton
import Stencil.Regex.Basic
import Stencil.Regex.Bracket
import Stencil.Regex.CharSet
import Stencil.Regex.Escape
import Stencil.Regex.Flags
import Stencil.Regex.Match
import Stencil.Regex.Reader
import Stencil.Regex.Utf8
import Stencil.Section
import Stencil.Template
import Stencil.Text.Basic
import Stencil.Text.Blank
import Stencil.Text.CaseFold
import Stencil.Text.Digit
import Stencil.Text.Hidden
import Stencil.Text.InversionList
import Stencil.Text.Quoted
import Stencil.Text.Word
import Stencil.Unicode.Age
import Stencil.Unicode.Binary
import Stencil.Unicode.Break
import Stencil.Unicode.Category
import Stencil.Unicode.Property
import Stencil.Unicode.Run
import Stencil.Unicode.Script
import Stencil.Yaml.Cursor
import Stencil.Yaml.Node
import Stencil.Yaml.Scalar
import Stencil.Yaml.Token
import Stencil.Proofs.Section.Outline
import Stencil.Proofs.Section.Compile
import Stencil.Proofs.Directive.Classify
import Stencil.Proofs.Loop.Step
import Stencil.Proofs.Section.Finality
import Stencil.Proofs.Loop.Pieces
import Stencil.Proofs.Literal.Grammar
import Stencil.Proofs.Literal.Numeral
import Stencil.Proofs.Literal.Quoted
import Stencil.Proofs.Literal.Sequence
import Stencil.Proofs.Literal.Reading
import Stencil.Proofs.Literal.Written
import Stencil.Proofs.Text.Unmarked
import Stencil.Proofs.Section.Unmarked
import Stencil.Machine
import Stencil.Proofs.Machine.Refusal
import Stencil.Proofs.Directive.Trim
import Stencil.Proofs.Loop.Fault
import Stencil.Proofs.Section.Fault
import Stencil.Proofs.Template.Blame
import Stencil.Proofs.Text.Fill
import Stencil.Proofs.Directive.Padding
import Stencil.Proofs.Template.Padding
import Stencil.Proofs.FileTree.Growth
import Stencil.Proofs.Template.Passthrough
import Stencil.Proofs.Disk.Effect
import Stencil.Proofs.Generator.Frame
import Stencil.Proofs.Project.Batch
import Stencil.Proofs.Text.Blanks
import Stencil.Proofs.Directive.Entry
import Stencil.Proofs.Directive.Header
import Stencil.Proofs.Project.Selected
import Stencil.Proofs.FileTree.Standing
import Stencil.Proofs.FileTree.Rewriting
import Stencil.Proofs.Generator.Again
import Stencil.Proofs.Project.Rerun
import Stencil.Proofs.Loop.Append
import Stencil.Proofs.Section.Closed
import Stencil.Proofs.Section.Block
import Stencil.Proofs.Text.BoundNames
import Stencil.Proofs.Loop.Reordering
import Stencil.Proofs.Literal.Integer
import Stencil.Proofs.Literal.Unfinished
import Stencil.Proofs.Literal.Broken
import Stencil.Proofs.Literal.Reach
import Stencil.Proofs.Literal.Fault
import Stencil.Proofs.Text.ByteSize
import Stencil.Proofs.Pattern.Glob
import Stencil.Proofs.Loop.Context
import Stencil.Proofs.Text.Marks
import Stencil.Proofs.Text.Rounds
import Stencil.Proofs.Control.Declaration
import Stencil.Proofs.FileTree.Additions
import Stencil.Proofs.Project.Setup
