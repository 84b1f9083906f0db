import Stencil.Text.Quoted

/-!
# Paths

A path is the text of it; nothing is normalised when paths are joined.  For its parent and its file
name a path is read as components: repeated slashes and a dot that does not start the path do not
count.
-/

namespace Stencil

/-- A path by its text. -/
structure Path where
  /-- The path as it is written. -/
  text : Text
  deriving DecidableEq

namespace Path

/-- The path as it is shown in messages. -/
def quoted (path : Path) : String := path.text.quoted.string

/-- The path starts at the root. -/
def isAbsolute (path : Path) : Bool := path.text.head? == some '/'

/-- The path ends in a slash. -/
def hasTrailingSlash (path : Path) : Bool := path.text.getLast? == some '/'

/-- A path below another one; an absolute path replaces it. -/
def join (base path : Path) : Path :=
  if path.isAbsolute || base.text.isEmpty then path
  else if base.hasTrailingSlash then ⟨base.text ++ path.text⟩
  else ⟨base.text ++ '/' :: path.text⟩

/-- The parts between slashes. -/
def segments (path : Path) : List Text := path.text.splitOn '/'

/-- A part counts as a component: it is not empty, and no dot unless it starts the path. -/
def isComponent (segment : Text) (index : Nat) : Bool :=
  segment != [] && (segment != ['.'] || index == 0)

/-- The parts up to the last component, that component last. -/
def upToLast (segments : List Text) : List Text :=
  ((segments.zipIdx.reverse.dropWhile fun (segment, index) => !isComponent segment index).map
    Prod.fst).reverse

/-- The last component if it is a name. -/
def fileName? (path : Path) : Option Text :=
  match (upToLast path.segments).getLast? with
  | some name => if name = ['.'] ∨ name = ['.', '.'] then none else some name
  | none => none

/-- The path without its last component; the root and the empty path have no parent. -/
def parent? (path : Path) : Option Path :=
  match upToLast path.segments with
  | [] => none
  | whole =>
    match upToLast whole.dropLast with
    | [] => some (if path.isAbsolute then ⟨['/']⟩ else ⟨[]⟩)
    | kept => some ⟨List.intercalate ['/'] kept⟩

/-- The path, its parent, the parent of that and so on, without the empty path.  The fuel bounds
their number. -/
def ancestorsFrom : Nat → Path → List Path
  | 0, _ => []
  | fuel + 1, path =>
    if path.text.isEmpty then []
    else
      match path.parent? with
      | some parent => path :: ancestorsFrom fuel parent
      | none => [path]

/-- The path, its parent, the parent of that and so on, without the empty path. -/
def ancestors (path : Path) : List Path := ancestorsFrom (path.text.length + 1) path

end Path

end Stencil
