import BinaryLayout.Files.Basic
import BinaryLayout.Files.Path
import BinaryLayout.Schema
import BinaryLayout.Spec.Document

/-!
# Loading

Run descriptions and schemas are loaded from files. The path of a schema is seen from the directory of
the description that names it.
-/

namespace BinaryLayout

/-- Why a file cannot be loaded. -/
inductive LoadError
  | file (path : String) (error : FileError)
  | spec (problem : Yaml.Problem)
  | schema (error : Json.Error)

def LoadError.message : LoadError → String
  | .file path error => "failed to read " ++ path ++ ": " ++ error.message
  | .spec problem => "invalid conversion spec: " ++ problem.message
  | .schema error => "invalid vtype schema: " ++ error.message

variable {m : Type → Type} [Monad m]

/-- The description with the path of its schema as seen from where its own path is seen. -/
def Spec.locate (path : String) (spec : Spec) : Spec :=
  match Files.Path.parent? path with
  | some directory => { spec with filename := Files.Path.join directory spec.filename }
  | none => spec

def Spec.load (disk : Disk m) (path : String) : m (Except LoadError Spec) := do
  match ← disk.readText path with
  | .error error => return .error (.file path error)
  | .ok text => return ((Spec.ofText text).mapError .spec).map (·.locate path)

def Schema.load (disk : Disk m) (path : String) : m (Except LoadError Schema) := do
  match ← disk.readText path with
  | .error error => return .error (.file path error)
  | .ok text => return (Schema.ofText text).mapError .schema

end BinaryLayout
