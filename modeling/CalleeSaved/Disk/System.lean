import CalleeSaved.Disk.Path

/-!
# File systems

A file system has states, and operations on them that can fail.  Which states there are, when an
operation fails and with which fault, is for the system to say: the tool works with any.

**Faults.**  A fault has a number and a wording.  The tool knows the numbers of two of them: nothing
is found where a path leads, or a directory is.

**Directories.**  `makeDirectories` makes a directory with those on the way to it.  Where one of
these is missing, it is made first; any other fault is overlooked if a directory is there.
-/

namespace CalleeSaved

/-- Why an operation cannot be done. -/
structure Fault where
  number : Nat
  text : String
  deriving DecidableEq, Repr

namespace Fault

/-- Nothing is found where the path leads. -/
def noEntry : Fault :=
  ⟨2, "No such file or directory"⟩

/-- A directory is found where the path leads. -/
def isDirectory : Fault :=
  ⟨21, "Is a directory"⟩

end Fault

/-- A fault with the path that it was met at, if it was met at one. -/
structure DiskError where
  fault : Fault
  path : Option Script
  deriving DecidableEq, Repr

/-- The wording of a disk error. -/
def DiskError.message (error : DiskError) : String :=
  let met := error.path.map fun path => ": " ++ path.quoted
  "[Errno " ++ toString error.fault.number ++ "] " ++ error.fault.text ++ met.getD ""

/-- Why a path leads to no place: its links form a loop, or the system fails. -/
inductive ResolveError
  | loop (path : Script)
  | fault (error : DiskError)
  deriving DecidableEq, Repr

/-- A file system with states in `σ`. -/
class FileSystem (σ : Type) where
  /-- The bytes of the file that a path leads to. -/
  read : σ → Path → Except Fault (List UInt8)
  /-- The place that a path leads to, whether anything is found there or not. -/
  resolve : σ → Path → Except ResolveError Place
  /-- A directory is found at the place. -/
  isDirectory : σ → Place → Bool
  /-- The state with a directory made at a place. -/
  makeDirectory : σ → Place → Except Fault σ
  /-- The state with the file that a path leads to made or emptied, and the file, open for
  writing. -/
  create : σ → Path → Except Fault (σ × Place)
  /-- The state after bytes are written into an open file from an offset on, and why not all of them
  could be. -/
  writeAt : σ → Place → Nat → List UInt8 → σ × Option Fault

namespace FileSystem

variable {σ : Type} [FileSystem σ]

/-- The state after an attempt to make a directory in one that exists, and why it failed.  A
directory that is there already is no failure. -/
def ensureDirectory (disk : σ) (place : Place) : σ × Option DiskError :=
  match makeDirectory disk place with
  | .ok made => (made, none)
  | .error fault =>
      if fault.number ≠ Fault.noEntry.number && isDirectory disk place then (disk, none)
      else (disk, some ⟨fault, some place.name⟩)

/-- The state after an attempt to make a directory at the place that the reversed names spell, and
those on the way to it, and why it failed. -/
def makeDirectoriesReversed (disk : σ) : List Script → σ × Option DiskError
  | [] => ensureDirectory disk []
  | name :: above =>
      let place : Place := (name :: above).reverse
      match ensureDirectory disk place with
      | (made, none) => (made, none)
      | (_, some error) =>
          if error.fault.number = Fault.noEntry.number then
            match makeDirectoriesReversed disk above with
            | (parent, some error) => (parent, some error)
            | (parent, none) => ensureDirectory parent place
          else (disk, some error)

/-- The state after an attempt to make a directory at a place, and those on the way to it, and why it
failed. -/
def makeDirectories (disk : σ) (place : Place) : σ × Option DiskError :=
  makeDirectoriesReversed disk place.reverse

end FileSystem
end CalleeSaved
