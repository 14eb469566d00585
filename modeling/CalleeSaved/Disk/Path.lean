import CalleeSaved.Text.Script

/-!
# Paths

A path is a root, which is empty for a relative path, and the names on the way.  Empty names and
single dots are dropped, so that different spellings of a path agree; two dots are kept, because
they depend on what is there.

**Home directories.**  A tilde at the start of a relative path, with the name of a user behind it or
without one, stands for a home directory.
-/

namespace CalleeSaved

/-- A path. -/
structure Path where
  root : String
  names : List Script
  deriving DecidableEq, Repr

namespace Path

/-- The root of a path.  Exactly two slashes at the start are a root of their own. -/
def rootOf (script : Script) : String :=
  match (script.takeWhile (· == .char '/')).length with
  | 0 => ""
  | 2 => "//"
  | _ => "/"

/-- The path that a script spells. -/
def ofScript (script : Script) : Path :=
  ⟨rootOf script, (script.splitOn (.char '/')).filter fun name => name != "" && name != "."⟩

/-- The spelling of a path. -/
def toScript (path : Path) : Script :=
  if path.root.isEmpty && path.names.isEmpty then "."
  else path.root ++ List.intercalate "/" path.names

/-- The path does not start at the working directory. -/
def isAbsolute (path : Path) : Bool :=
  !path.root.isEmpty

/-- No path can hold the character NUL. -/
def holdsNul (script : Script) : Bool :=
  script.contains (.char (Char.ofNat 0))

/-- The user whose home directory the path starts with; the empty name stands for no other. -/
def homeOf? (path : Path) : Option Script :=
  match path.names with
  | (.char '~' :: user) :: _ => if path.isAbsolute then none else some user
  | _ => none

/-- The path with a home directory in place of its first name.  A directory that starts with a tilde
is none. -/
def inHome? (path : Path) (home : Script) : Option Path :=
  let directory := (home.reverse.dropWhile (· == .char '/')).reverse
  let start := ofScript (if directory.isEmpty then "/" else directory)
  if directory.head? == some (.char '~') then none
  else some ⟨start.root, start.names ++ path.names.tail⟩

end Path

/-- A place in a file system: the names from the root. -/
abbrev Place := List Script

/-- The path of a place, from the root. -/
def Place.name (place : Place) : Script :=
  "/" ++ List.intercalate "/" place

end CalleeSaved
