/-!
# Paths

Paths as texts whose components are separated by slashes. Empty components and single dots lead
nowhere, except for a dot at the very start.
-/

namespace BinaryLayout.Files.Path

def isAbsolute (path : String) : Bool :=
  path.startsWith "/"

/-- What stands before the components: the root, or a dot at the start. -/
def start (path : String) : String :=
  if path.startsWith "/" then "/"
  else if path == "." || path.startsWith "./" then "."
  else ""

/-- The components behind the start. -/
def components (path : String) : List String :=
  (String.ofList (path.toList.drop (start path).length)).splitOn "/"

/-- Whether a component leads nowhere. -/
def isVoid (component : String) : Bool :=
  component == "" || component == "."

/-- The path without its last component, if it has one. -/
def parent? (path : String) : Option String :=
  match (components path).reverse.dropWhile isVoid with
  | [] => none
  | _ :: before =>
    some (start path ++ String.intercalate "/" (before.dropWhile isVoid).reverse)

/-- A path seen from a directory. -/
def join (directory path : String) : String :=
  if isAbsolute path || directory.isEmpty then path
  else if directory.endsWith "/" then directory ++ path
  else directory ++ "/" ++ path

end BinaryLayout.Files.Path
