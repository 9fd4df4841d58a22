/-!
# Run Descriptions

A run description names the profile to generate, the schema file, the structures to take from it, and
for some structures the fields to keep or to drop.
-/

namespace BinaryLayout

structure Spec where
  module : String := ""
  profile : String := ""
  /-- The path of the schema file. -/
  filename : String := ""
  structs : List String := []
  /-- The only fields to keep, for the structures listed here. -/
  allow : List (String × List String) := []
  /-- The fields to drop. -/
  deny : List (String × List String) := []
  /-- Whether structures get a formatter. -/
  debug : Bool := false
deriving DecidableEq, Repr

namespace Spec

def selectsStruct (spec : Spec) (name : String) : Bool :=
  spec.structs.contains name

/-- Whether a field of a structure is kept. A field that is both allowed and denied is dropped. -/
def selectsField (spec : Spec) (struct field : String) : Bool :=
  if ((spec.deny.lookup struct).getD []).contains field then false
  else
    match spec.allow.lookup struct with
    | some allowed => allowed.contains field
    | none => true

end Spec

end BinaryLayout
