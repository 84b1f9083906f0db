import Stencil.Path

/-!
# File trees

A file tree maps locations, lists of names from the root, to files and directories.  Paths are
resolved name by name from the root or the working directory, so a path through a missing
directory or through a file is refused before its last name is looked at.  A name has at most 255
bytes and a path fewer than 4096.
-/

namespace Stencil

/-- Why an operation on files fails. -/
inductive DiskError where
  /-- Nothing has this path. -/
  | notFound
  /-- Something has this path already. -/
  | alreadyExists
  /-- The path goes through a file. -/
  | notDirectory
  /-- The path is that of a directory. -/
  | isDirectory
  /-- The path or a name in it is too long. -/
  | nameTooLong
  /-- The path has a null character. -/
  | nullInName
  /-- The bytes of a file are no text. -/
  | notText
  /-- An output path does not end in a name. -/
  | missingFileName
  /-- Any other reason, in the words of the system. -/
  | other (message : String)
  deriving DecidableEq

/-- The wording of an error. -/
def DiskError.message : DiskError → String
  | .notFound => "No such file or directory (os error 2)"
  | .alreadyExists => "File exists (os error 17)"
  | .notDirectory => "Not a directory (os error 20)"
  | .isDirectory => "Is a directory (os error 21)"
  | .nameTooLong => "File name too long (os error 36)"
  | .nullInName => "file name contained an unexpected NUL byte"
  | .notText => "stream did not contain valid UTF-8"
  | .missingFileName => "output path must have a filename"
  | .other message => message

/-- What a file holds. -/
inductive Content where
  /-- Text. -/
  | text (text : Text)
  /-- Bytes that are no text. -/
  | bytes (bytes : List UInt8)
  deriving DecidableEq

/-- What stands at a location. -/
inductive Item where
  /-- A directory. -/
  | directory
  /-- A file. -/
  | file (content : Content)
  deriving DecidableEq

/-- The names that lead from the root to a place. -/
abbrev Location := List Text

/-- Files and directories with a working directory. -/
structure FileTree where
  /-- The location where relative paths start. -/
  workdir : Location
  /-- What stands at each location other than the root. -/
  items : List (Location × Item)
  deriving DecidableEq

namespace FileTree

/-- What stands at a location; the root is a directory. -/
def find? (tree : FileTree) (location : Location) : Option Item :=
  match location with
  | [] => some .directory
  | location => tree.items.lookup location

/-- The tree with an item at a location, in place of what stood there. -/
def put (tree : FileTree) (location : Location) (item : Item) : FileTree :=
  if (tree.items.lookup location).isSome then
    { tree with
      items := tree.items.map fun (other, old) =>
        if other = location then (other, item) else (other, old) }
  else { tree with items := tree.items ++ [(location, item)] }

/-- The tree without what stands at a location. -/
def remove (tree : FileTree) (location : Location) : FileTree :=
  { tree with items := tree.items.filter fun (other, _) => other ≠ location }

/-! ## Resolving paths -/

/-- The number of bytes that a name may have. -/
def nameLimit : Nat := 255

/-- The number of bytes that a path may not reach. -/
def pathLimit : Nat := 4096

/-- What stands at a location whose last name is looked up. -/
def entry (tree : FileTree) (location : Location) : Except DiskError (Option Item) :=
  if nameLimit < (location.getLastD []).byteSize then .error .nameTooLong
  else .ok (tree.find? location)

/-- The location that names lead to from a directory, each of them that of a directory. -/
def walk (tree : FileTree) : Location → List Text → Except DiskError Location
  | location, [] => .ok location
  | location, name :: rest =>
    if name = ['.'] then tree.walk location rest
    else if name = ['.', '.'] then tree.walk location.dropLast rest
    else
      match tree.entry (location ++ [name]) with
      | .error error => .error error
      | .ok none => .error .notFound
      | .ok (some (.file _)) => .error .notDirectory
      | .ok (some .directory) => tree.walk (location ++ [name]) rest

/-- The last step of a path. -/
inductive Target where
  /-- A name in a directory. -/
  | entry (location : Location)
  /-- A directory, by its location. -/
  | directory (location : Location)

/-- Where a path leads: the directories on the way have to exist, the last name does not. -/
def resolve (tree : FileTree) (path : Path) : Except DiskError Target :=
  if path.text.contains '\x00' then .error .nullInName
  else if pathLimit ≤ path.text.byteSize then .error .nameTooLong
  else if path.text.isEmpty then .error .notFound
  else
    let start := if path.isAbsolute then [] else tree.workdir
    let names := path.segments.filter (· != [])
    match names.getLast? with
    | none => .ok (.directory start)
    | some last =>
      if last = ['.'] ∨ last = ['.', '.'] then (tree.walk start names).map .directory
      else (tree.walk start names.dropLast).map fun location => .entry (location ++ [last])

/-- What stands at a path; a file does not stand at a path that ends in a slash. -/
def lookup (tree : FileTree) (path : Path) : Except DiskError Item :=
  match tree.resolve path with
  | .error error => .error error
  | .ok (.directory _) => .ok .directory
  | .ok (.entry location) =>
    match tree.entry location with
    | .error error => .error error
    | .ok none => .error .notFound
    | .ok (some .directory) => .ok .directory
    | .ok (some (.file content)) =>
      if path.hasTrailingSlash then .error .notDirectory else .ok (.file content)

/-! ## Operations -/

/-- Something stands at a path. -/
def has (tree : FileTree) (path : Path) : Bool :=
  match tree.lookup path with
  | .ok _ => true
  | .error _ => false

/-- A directory stands at a path. -/
def hasDirectory (tree : FileTree) (path : Path) : Bool :=
  match tree.lookup path with
  | .ok .directory => true
  | _ => false

/-- The text of the file at a path. -/
def read (tree : FileTree) (path : Path) : Except DiskError Text :=
  match tree.lookup path with
  | .error error => .error error
  | .ok .directory => .error .isDirectory
  | .ok (.file (.text text)) => .ok text
  | .ok (.file (.bytes _)) => .error .notText

/-- The tree after a file is written, which replaces a file but no directory. -/
def writeContent (tree : FileTree) (path : Path) (content : Content) :
    Except DiskError FileTree :=
  match tree.resolve path with
  | .error error => .error error
  | .ok (.directory _) => .error .isDirectory
  | .ok (.entry location) =>
    if path.hasTrailingSlash then .error .isDirectory
    else
      match tree.entry location with
      | .error error => .error error
      | .ok (some .directory) => .error .isDirectory
      | .ok _ => .ok (tree.put location (.file content))

/-- The tree after a text is written to a file. -/
def write (tree : FileTree) (path : Path) (text : Text) : Except DiskError FileTree :=
  tree.writeContent path (.text text)

/-- The tree after a directory is made in an existing one. -/
def makeDirectory (tree : FileTree) (path : Path) : Except DiskError FileTree :=
  match tree.resolve path with
  | .error error => .error error
  | .ok (.directory _) => .error .alreadyExists
  | .ok (.entry location) =>
    match tree.entry location with
    | .error error => .error error
    | .ok (some _) => .error .alreadyExists
    | .ok none => .ok (tree.put location .directory)

/-- The tree after the first of some paths, each the parent of the one before, is made a
directory.  If the way to it is missing, the others are made first; what they made stays even if
the first one fails. -/
def makeAll (tree : FileTree) : List Path → FileTree × Except DiskError Unit
  | [] => (tree, .ok ())
  | path :: parents =>
    match tree.makeDirectory path with
    | .ok made => (made, .ok ())
    | .error .notFound =>
      match tree.makeAll parents with
      | (grown, .error error) => (grown, .error error)
      | (grown, .ok ()) =>
        match grown.makeDirectory path with
        | .ok made => (made, .ok ())
        | .error error =>
          if grown.hasDirectory path then (grown, .ok ()) else (grown, .error error)
    | .error error => if tree.hasDirectory path then (tree, .ok ()) else (tree, .error error)

/-- The tree after a directory and the directories on the way to it are made. -/
def makeDirectories (tree : FileTree) (path : Path) : FileTree × Except DiskError Unit :=
  tree.makeAll path.ancestors

end FileTree

end Stencil
