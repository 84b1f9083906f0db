import Stencil.Text.Basic

/-!
# Records of the log

A run tells what it does in records, each with a level.  A record is shown on one line, whatever its
message quotes.
-/

namespace Stencil

/-- How important a record is. -/
inductive Level where
  /-- A detail. -/
  | debug
  /-- A normal event. -/
  | info
  /-- Something that may be a mistake. -/
  | warn
  /-- A failure. -/
  | error
  deriving DecidableEq

/-- The name of a level. -/
def Level.name : Level → String
  | .debug => "DEBUG"
  | .info => "INFO"
  | .warn => "WARN"
  | .error => "ERROR"

/-- One entry of the log. -/
structure Record where
  /-- The importance of the entry. -/
  level : Level
  /-- What happened. -/
  message : String
  deriving DecidableEq

namespace Record

/-- A record of a detail. -/
def debug (message : String) : Record := ⟨.debug, message⟩

/-- A record of a normal event. -/
def info (message : String) : Record := ⟨.info, message⟩

/-- A record of something that may be a mistake. -/
def warn (message : String) : Record := ⟨.warn, message⟩

/-- A record of a failure. -/
def error (message : String) : Record := ⟨.error, message⟩

/-- The record is more than a detail. -/
def isNotable (record : Record) : Bool := record.level != .debug

/-- The level and the first line of the message. -/
def line (record : Record) : String :=
  record.level.name ++ " " ++ ((Text.lines record.message.toList).headD []).string

end Record

end Stencil
