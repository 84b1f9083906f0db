import Stencil.FileTree
import Stencil.Record

/-!
# Disks

What a run needs of its surroundings: reading and writing files, making directories, and a log.
The same run works on a file tree kept in memory, about which statements can be made, and on the
files of the machine.
-/

namespace Stencil

/-- Effects on files and on the log. -/
class Disk (m : Type → Type) where
  /-- The text of a file. -/
  read : Path → m (Except DiskError Text)
  /-- Whether something stands at a path. -/
  has : Path → m Bool
  /-- Make a directory and the directories on the way to it. -/
  makeDirectories : Path → m (Except DiskError Unit)
  /-- Write a file. -/
  write : Path → Text → m (Except DiskError Unit)
  /-- Put a record into the log. -/
  note : Record → m Unit

/-- A file tree together with the log of a run. -/
structure Session where
  /-- The files. -/
  tree : FileTree
  /-- The records so far. -/
  log : List Record

/-- Runs on a file tree in memory. -/
abbrev InMemory := StateM Session

namespace Session

/-- The session with another tree. -/
def withTree (session : Session) (tree : FileTree) : Session := { session with tree }

/-- The records that are more than details. -/
def notableLog (session : Session) : List Record := session.log.filter Record.isNotable

end Session

/-- A file tree in memory is a disk. -/
instance : Disk InMemory where
  read path := fun session => (session.tree.read path, session)
  has path := fun session => (session.tree.has path, session)
  makeDirectories path := fun session =>
    let (tree, result) := session.tree.makeDirectories path
    (result, session.withTree tree)
  write path text := fun session =>
    match session.tree.write path text with
    | .ok tree => (.ok (), session.withTree tree)
    | .error error => (.error error, session)
  note record := fun session => ((), { session with log := session.log ++ [record] })

/-- A run that may fail has the effects of the run below it. -/
instance {ε : Type} {m : Type → Type} [Monad m] [Disk m] : Disk (ExceptT ε m) where
  read path := ExceptT.lift (Disk.read path)
  has path := ExceptT.lift (Disk.has path)
  makeDirectories path := ExceptT.lift (Disk.makeDirectories path)
  write path text := ExceptT.lift (Disk.write path text)
  note record := ExceptT.lift (Disk.note record)

/-- Put several records into the log. -/
def Disk.noteAll {m : Type → Type} [Monad m] [Disk m] : List Record → m Unit
  | [] => pure ()
  | record :: rest => do
    Disk.note record
    Disk.noteAll rest

end Stencil
