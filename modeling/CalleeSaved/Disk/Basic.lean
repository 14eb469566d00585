import CalleeSaved.Disk.System

/-!
# Disks

**Tree.**  A disk is a file system that holds files and directories by their place, the list of names
from the root, and knows its working directory.  Every directory on the way to the working directory
exists.  A place can also be barred: whatever is to be done there fails.

**Walking.**  A path is followed name by name.  Each step needs a directory to stand in, and two
dots go back up. The last name need not exist.
-/

namespace CalleeSaved

/-- What can be found at a place. -/
inductive Node
  | file (bytes : List UInt8)
  | directory
  | barred (fault : Fault)
  deriving DecidableEq, Repr

namespace Fault

/-- Something is found where it is to be made. -/
def alreadyExists : Fault :=
  ⟨17, "File exists"⟩

/-- A path leads through something that is no directory. -/
def notDirectory : Fault :=
  ⟨20, "Not a directory"⟩

/-- A name or a path is too long. -/
def nameTooLong : Fault :=
  ⟨36, "File name too long"⟩

end Fault

/-- Files and directories by place, and the working directory. -/
structure Disk where
  workingDirectory : Place
  nodes : List (Place × Node)

namespace Disk

/-- The longest name of a file, in bytes. -/
def maxName : Nat := 255

/-- The longest path, in bytes. -/
def maxPath : Nat := 4095

/-- What is found at a place. -/
def node? (disk : Disk) (place : Place) : Option Node :=
  if place.isPrefixOf disk.workingDirectory then some .directory else disk.nodes.lookup place

/-- A directory is found at the place. -/
def isDirectory (disk : Disk) (place : Place) : Bool :=
  disk.node? place == some .directory

/-- The disk with a node put at a place. -/
def put (disk : Disk) (place : Place) (node : Node) : Disk :=
  { disk with nodes := (place, node) :: disk.nodes.filter fun entry => entry.1 != place }

/-- The place that names lead to from a place. -/
def walk (disk : Disk) (here : Place) : List Script → Except Fault Place
  | [] => .ok here
  | name :: rest =>
      match disk.node? here with
      | none => .error .noEntry
      | some (.file _) => .error .notDirectory
      | some (.barred fault) => .error fault
      | some .directory =>
          if maxName < name.bytes.length then .error .nameTooLong
          else if name == ".." then disk.walk here.dropLast rest
          else disk.walk (here ++ [name]) rest

/-- The place that a path leads to. -/
def locate (disk : Disk) (path : Path) : Except Fault Place :=
  if maxPath < path.toScript.bytes.length then .error .nameTooLong
  else disk.walk (if path.isAbsolute then [] else disk.workingDirectory) path.names

/-- The place that a path leads to when two dots simply undo the name before them. -/
def resolve (disk : Disk) (path : Path) : Place :=
  let step (here : Place) (name : Script) :=
    if name == ".." then here.dropLast else here ++ [name]
  path.names.foldl step (if path.isAbsolute then [] else disk.workingDirectory)

/-- The bytes of the file that a path leads to. -/
def read (disk : Disk) (path : Path) : Except Fault (List UInt8) :=
  match disk.locate path with
  | .error fault => .error fault
  | .ok place =>
      match disk.node? place with
      | none => .error .noEntry
      | some .directory => .error .isDirectory
      | some (.barred fault) => .error fault
      | some (.file bytes) => .ok bytes

/-- The disk with the file that a path leads to made or emptied, and the place of the file. -/
def create (disk : Disk) (path : Path) : Except Fault (Disk × Place) :=
  match disk.locate path with
  | .error fault => .error fault
  | .ok place =>
      match disk.node? place with
      | some .directory => .error .isDirectory
      | some (.barred fault) => .error fault
      | _ => .ok (disk.put place (.file []), place)

/-- The bytes with others written over them from an offset on; a gap is filled with zeros. -/
def overlay (bytes : List UInt8) (offset : Nat) (written : List UInt8) : List UInt8 :=
  bytes.take offset ++ List.replicate (offset - bytes.length) 0 ++ written ++
    bytes.drop (offset + written.length)

/-- The disk with bytes written into an open file from an offset on. -/
def writeAt (disk : Disk) (place : Place) (offset : Nat) (written : List UInt8) : Disk :=
  match disk.node? place with
  | some (.file bytes) => disk.put place (.file (overlay bytes offset written))
  | _ => disk

/-- The disk with a directory made at a place, in a directory that exists. -/
def makeDirectory (disk : Disk) (place : Place) : Except Fault Disk :=
  match disk.locate ⟨"/", place⟩ with
  | .error fault => .error fault
  | .ok found =>
      match disk.node? found with
      | some _ => .error .alreadyExists
      | none => .ok (disk.put found .directory)

instance : FileSystem Disk where
  read := read
  resolve disk path := .ok (disk.resolve path)
  isDirectory := isDirectory
  makeDirectory := makeDirectory
  create := create
  writeAt disk place offset written := (disk.writeAt place offset written, none)

end Disk
end CalleeSaved
