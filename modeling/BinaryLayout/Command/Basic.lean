import BinaryLayout.Command.Argument

/-!
# Commands

The program has two commands: one writes the artifact for a run description, the other lists the
structures of a schema.
-/

namespace BinaryLayout

/-- What to generate, and where to write it. -/
structure Generation where
  spec : String
  output : Option String := none
  debug : Bool := false
  arrayLimit : Option UInt64 := none
  window : Option UInt64 := none
  runtime : Option String := none
deriving DecidableEq, Repr

inductive Command
  | generate (generation : Generation)
  | structs (schema : String)
deriving DecidableEq, Repr

/-- A command and how much it reports. -/
structure Invocation where
  command : Command
  verbosity : Nat
deriving DecidableEq, Repr

namespace Command

/-! ## Grammars -/

def helpOption : Argument :=
  { name := "help", short := some 'h', long := some "help", action := .help }

def verboseOption : Argument :=
  { name := "verbose", short := some 'v', action := .count }

def generateGrammar : Grammar :=
  { options :=
      [{ name := "output", short := some 'o', long := some "output", action := .takes .path },
       { name := "debug", long := some "debug-string", action := .flag },
       { name := "arrayLimit", long := some "max-array-count", action := .takes .number },
       { name := "window", long := some "scan-window", action := .takes .number },
       { name := "runtime", long := some "runtime-crate", action := .takes .text },
       verboseOption, helpOption]
    positionals := [{ name := "spec", action := .takes .path }] }

def structsGrammar : Grammar :=
  { options := [verboseOption, helpOption]
    positionals := [{ name := "schema", action := .takes .path }] }

/-- The options in front of a command. -/
def frontGrammar : Grammar :=
  { options := [helpOption], positionals := [] }

/-! ## Values -/

def textOf? (given : List (String × Given)) (name : String) : Option String :=
  match given.lookup name with
  | some (.text value) => some value
  | _ => none

def numberOf? (given : List (String × Given)) (name : String) : Option UInt64 :=
  match given.lookup name with
  | some (.number value) => some value
  | _ => none

def verbosityOf (given : List (String × Given)) : Nat :=
  ((numberOf? given "verbose").map UInt64.toNat).getD 0

def readGenerate (arguments : List String) : Except UsageError Invocation := do
  let given ← generateGrammar.read arguments
  let generation : Generation :=
    { spec := (textOf? given "spec").getD ""
      output := textOf? given "output"
      debug := (numberOf? given "debug").isSome
      arrayLimit := numberOf? given "arrayLimit"
      window := numberOf? given "window"
      runtime := textOf? given "runtime" }
  return ⟨.generate generation, verbosityOf given⟩

def readStructs (arguments : List String) : Except UsageError Invocation := do
  let given ← structsGrammar.read arguments
  return ⟨.structs ((textOf? given "schema").getD ""), verbosityOf given⟩

/-! ## The command line -/

/-- The names of the commands, that of the help included. -/
def names : List String :=
  ["generate", "structs", "help"]

/-- The help for a command, or for all of them. -/
def readHelp : List String → UsageError
  | [] => .helpWanted
  | [name] => if names.contains name then .helpWanted else .unknownCommand
  | _ => .unknownCommand

/-- Reads what follows two dashes in front of a command, where no command can stand. -/
def readBehindDashes : List String → UsageError
  | [] => .missingCommand
  | name :: _ => if names.contains name then .unknownArgument else .unknownCommand

/-- Reads the arguments of the program. -/
def read : List String → Except UsageError Invocation
  | [] => .error .missingCommand
  | argument :: rest =>
    match argument with
    | "generate" => readGenerate rest
    | "structs" => readStructs rest
    | "help" => .error (readHelp rest)
    | "--" => .error (readBehindDashes rest)
    | "-" => .error .unknownCommand
    | _ =>
      if argument.startsWith "-" then
        match Progress.step frontGrammar { positionals := [] } argument with
        | .ok _ => .error .unknownArgument
        | .error error => .error error
      else .error .unknownCommand

end Command

end BinaryLayout
