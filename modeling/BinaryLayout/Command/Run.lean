import BinaryLayout.Artifact
import BinaryLayout.Command.Basic
import BinaryLayout.Load

/-!
# Running Commands

A command reads its files from a disk, and gives the text to print or the reason why there is none.
-/

namespace BinaryLayout.Command

/-- Why a command fails. -/
inductive Failure
  | load (error : LoadError)
  | build (error : BuildError)
  | write (path : String) (error : FileError)

def Failure.message : Failure → String
  | .load error => error.message
  | .build error => error.message
  | .write path error => "failed to write " ++ path ++ ": " ++ error.message

/-- The options of a run: those of the description, and then those of the command. -/
def optionsOf (generation : Generation) (spec : Spec) : Options :=
  let apply {α : Type} (change : Options → α → Options) (value : Option α) (options : Options) :
      Options :=
    match value with
    | some found => change options found
    | none => options
  Options.ofSpec spec
    |> apply Options.withArrayLimit (generation.arrayLimit.map UInt64.toNat)
    |> apply Options.withWindow (generation.window.map UInt64.toNat)
    |> apply Options.withRuntime generation.runtime

variable {m : Type → Type} [Monad m]

/-- The artifact that a command asks for. -/
def artifact (disk : Disk m) (generation : Generation) : ExceptT Failure m String := do
  let loaded ← ExceptT.mk do return (← Spec.load disk generation.spec).mapError .load
  let spec := if generation.debug then { loaded with debug := true } else loaded
  let schema ← ExceptT.mk do return (← Schema.load disk spec.filename).mapError .load
  ExceptT.mk do
    return (Artifact.generateWith (optionsOf generation spec) spec schema).mapError .build

/-- Runs a command. The result is what it prints. -/
def run (disk : Disk m) : Command → ExceptT Failure m String
  | .generate generation => do
    let code ← artifact disk generation
    match generation.output with
    | none => return code
    | some path =>
      ExceptT.mk do return (← disk.write path code.toUTF8).mapError (.write path)
      return ""
  | .structs path => do
    let schema ← ExceptT.mk do return (← Schema.load disk path).mapError .load
    return schema.listing

end BinaryLayout.Command
