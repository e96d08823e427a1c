import LineAssembler.FileStore
import LineAssembler.Text.Utf8

/-!
# File systems

A store of files seen from a working directory: directories and files with their
bytes, each at a location. A path is a list of names between slashes, followed
from the working directory; every name but the last has to lead to a directory.
What lies above the working directory holds no files. Nobody else uses the files and
everything is permitted, so a path is refused only for where it leads or for its length.
-/

namespace LineAssembler

namespace AccessFault

/-- The path, or a directory on the way to it, does not exist. -/
def missing : AccessFault := ⟨2, "No such file or directory".toList⟩

/-- The path leads through a file. -/
def notDirectory : AccessFault := ⟨20, "Not a directory".toList⟩

/-- The path is a directory where a file is needed. -/
def isDirectory : AccessFault := ⟨21, "Is a directory".toList⟩

/-- The path, or a name in it, is too long. -/
def nameTooLong : AccessFault := ⟨36, "File name too long".toList⟩

end AccessFault

/-- The names that lead from the working directory to a place. The name of the
root stands only at the front of an absolute location, and parent names only at
the front of a location above the working directory. -/
abbrev Location := List Text

namespace Location

/-- The name of the parent directory. -/
def parentName : Text := ['.', '.']

/-- The name of the root, which no other place has. -/
def rootName : Text := ['/']

/-- The working directory, the directories above it, and the root. -/
def isOuter (location : Location) : Bool :=
  location.all (· == parentName) || location == [rootName]

/-- Follow one name from a directory. An empty name and a single dot stay. -/
def step (here : Location) (name : Text) : Location :=
  if name = [] ∨ name = ['.'] then here
  else if name = parentName then
    if here = [rootName] then here
    else if here.isOuter then here ++ [parentName]
    else here.dropLast
  else here ++ [name]

end Location

namespace Path

/-- The number of bytes in a name. -/
def byteLength (name : Text) : Nat := (Text.Utf8.encode name).length

/-- A name has at most 255 bytes. -/
def isShortName (name : Text) : Bool := byteLength name ≤ 255

/-- A path is not empty and has fewer than 4096 bytes. -/
def check (path : Path) : Except AccessFault Path :=
  if path.text.isEmpty then .error .missing
  else if byteLength path.text < 4096 then .ok path
  else .error .nameTooLong

/-- The location at which a path starts: the root if it starts with a slash, and
otherwise the working directory. -/
def start (path : Path) : Location :=
  if path.text.head? = some '/' then [Location.rootName] else []

/-- The names between the slashes of a path. -/
def names (path : Path) : List Text := path.text.splitOn '/'

/-- The names that lead to the directory of the last name of a path. -/
def parentNames (path : Path) : List Text :=
  (path.names.reverse.dropWhile List.isEmpty).reverse.dropLast

/-- A path that ends in a slash can only name a directory. -/
def endsInSlash (path : Path) : Bool := path.text.getLast? == some '/'

end Path

/-- What stands at a location. -/
inductive Node where
  | directory
  | file (bytes : List UInt8)
deriving DecidableEq

/-- A file system; of several entries for a location the first counts. -/
structure FileSystem where
  entries : List (Location × Node)

namespace FileSystem

/-- A file system with an empty working directory. -/
def empty : FileSystem := ⟨[]⟩

/-- What stands at a location. -/
def node? (files : FileSystem) (location : Location) : Option Node :=
  if location.isOuter then some .directory else files.entries.lookup location

/-- Put something at a location, in place of what stood there. -/
def insert (files : FileSystem) (location : Location) (node : Node) : FileSystem :=
  ⟨(location, node) :: files.entries.filter (·.1 != location)⟩

/-- Follow names from a location, each of which has to be looked up in a
directory. -/
def follow (files : FileSystem) (here : Location) : List Text → Except AccessFault Location
  | [] => .ok here
  | name :: names =>
    match files.node? here with
    | some .directory =>
      if Path.isShortName name then files.follow (here.step name) names
      else .error .nameTooLong
    | some (.file _) => .error .notDirectory
    | none => .error .missing

/-- The location of a path, at which nothing need stand. -/
def locate (files : FileSystem) (path : Path) : Except AccessFault Location :=
  path.check.bind fun path => files.follow path.start path.names

/-- The directory that holds the last name of a path. -/
def locateParent (files : FileSystem) (path : Path) : Except AccessFault Location :=
  path.check.bind fun path => files.follow path.start (path.parentNames ++ [[]])

/-- The bytes of the file at a path. -/
def read (files : FileSystem) (path : Path) : Except AccessFault (List UInt8) :=
  match files.locate path with
  | .error fault => .error fault
  | .ok location =>
    match files.node? location with
    | some (.file bytes) => .ok bytes
    | some .directory => .error .isDirectory
    | none => .error .missing

/-- Put a file at a path, in place of a file that stood there. If the path can
only name a directory, its last name is not looked up. -/
def write (files : FileSystem) (path : Path) (bytes : List UInt8) :
    Except AccessFault FileSystem :=
  if path.endsInSlash then
    match files.locateParent path with
    | .error fault => .error fault
    | .ok _ => .error .isDirectory
  else match files.locate path with
    | .error fault => .error fault
    | .ok location =>
      match files.node? location with
      | some .directory => .error .isDirectory
      | _ => .ok (files.insert location (.file bytes))

/-- File systems are stores of files. -/
instance : FileStore FileSystem := ⟨read, write⟩

/-- Put directories at all locations on the way to a path and at the path. -/
def makeDirectory (files : FileSystem) (path : Text) : FileSystem :=
  let names := (path.splitOn '/').filter (!·.isEmpty)
  (List.range names.length).foldl
    (fun files count => files.insert (names.take (count + 1)) .directory) files

/-- The names and bytes of the files in the working directory that are new in
`after` or have other bytes than in `before`, in the order of their names. -/
def changes (before after : FileSystem) : List (Text × List UInt8) :=
  (after.entries.filterMap fun (location, node) =>
    match location, node with
    | [name], .file bytes =>
      if before.node? location = some node then none else some (name, bytes)
    | _, _ => none).mergeSort (fun one other => Text.precedes one.1 other.1)

end FileSystem

end LineAssembler
