import BinaryLayout.Files.Basic

/-!
# Files in Memory

A directory with files, as a list of their places. The directories inside it are those on the way to a
file. Outside of it there are only directories, and none of them is known by name.
-/

namespace BinaryLayout.Files

/-- The files by the components of their paths. -/
structure Memory where
  files : List (List String × ByteArray) := []

/-- Where the walk along a path has come to. -/
inductive Place
  | inside (components : List String)
  | outside
deriving DecidableEq, Repr

namespace Memory

def file? (memory : Memory) (components : List String) : Option ByteArray :=
  memory.files.lookup components

def isDirectory (memory : Memory) (components : List String) : Bool :=
  components.isEmpty || memory.files.any fun (place, _) ↦
    components.length < place.length && components.isPrefixOf place

/-- Puts a file in its place, or in the place of another. -/
def put (memory : Memory) (components : List String) (content : ByteArray) : Memory :=
  ⟨(memory.files.filter fun (place, _) ↦ place != components) ++ [(components, content)]⟩

/-- The longest name of a file or directory, in bytes. -/
def longestName : Nat := 255

/-- The longest path, in bytes. -/
def longestPath : Nat := 4095

/-- The directory that a component leads to. -/
def enter (memory : Memory) (place : Place) (component : String) : Except FileError Place :=
  match component, place with
  | "", _ => .ok place
  | ".", _ => .ok place
  | "..", .inside [] => .ok .outside
  | "..", .inside components => .ok (.inside components.dropLast)
  | "..", .outside => .ok .outside
  | name, .outside => .error (if longestName < name.utf8ByteSize then .nameTooLong else .notFound)
  | name, .inside components =>
    let inner := components ++ [name]
    if longestName < name.utf8ByteSize then .error .nameTooLong
    else if memory.isDirectory inner then .ok (.inside inner)
    else if (memory.file? inner).isSome then .error .notDirectory
    else .error .notFound

/-- What a path leads to: the directory before its last component, that component, and whether
slashes follow it. -/
structure Target where
  directory : Place
  name : String
  slashes : Bool
deriving DecidableEq, Repr

/-- Follows a path up to its last component. -/
def walk (memory : Memory) (path : String) : Except FileError Target := do
  if path.toList.contains '\x00' then throw .zeroInName
  if path.isEmpty then throw .notFound
  if longestPath < path.utf8ByteSize then throw .nameTooLong
  let components := path.splitOn "/"
  let trailing := (components.reverse.takeWhile String.isEmpty).length
  let whole := components.take (components.length - trailing)
  let start : Place := if path.startsWith "/" then .outside else .inside []
  let directory ← whole.dropLast.foldlM memory.enter start
  return ⟨directory, (whole.getLast?).getD ".", 0 < trailing⟩

/-- The place of a file in a directory, if the name is not that of a directory. -/
def filePlace (memory : Memory) (target : Target) : Except FileError (List String) :=
  match memory.enter target.directory target.name with
  | .ok _ => .error .isDirectory
  | .error .notDirectory | .error .notFound =>
    match target.directory with
    | .inside components => .ok (components ++ [target.name])
    | .outside => .error .notFound
  | .error error => .error error

def read (memory : Memory) (path : String) : Except FileError ByteArray := do
  let target ← memory.walk path
  let place ← memory.filePlace target
  match memory.file? place with
  | none => throw .notFound
  | some content => if target.slashes then throw .notDirectory else return content

def write (memory : Memory) (path : String) (content : ByteArray) : Except FileError Memory := do
  let target ← memory.walk path
  if target.slashes then throw .isDirectory
  let place ← memory.filePlace target
  return memory.put place content

/-- The files in memory as the files of a program that changes them. -/
def disk : Disk (StateM Memory) where
  read path := do return (← get).read path
  write path content := do
    match (← get).write path content with
    | .ok memory => set memory; return .ok ()
    | .error error => return .error error

end Memory

end BinaryLayout.Files
