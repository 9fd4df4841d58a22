import BinaryLayout.Command.Run

/-!
# The Program

Reads its arguments and files, and prints what the command gives.
-/

namespace BinaryLayout.Main

def fileError : IO.Error → FileError
  | .noFileOrDirectory .. => .notFound
  | .inappropriateType _ code _ => if code = 21 then .isDirectory else .notDirectory
  | other => .system (toString other)

/-- Tries an action on a file. -/
def attempt {α : Type} (action : IO α) : IO (Except FileError α) := do
  try return .ok (← action) catch error => return .error (fileError error)

def disk : Disk IO where
  read path := attempt (IO.FS.readBinFile path)
  write path content := attempt (IO.FS.writeBinFile path content)

def usage : String :=
  "Usage: binparsegen generate [OPTIONS] <SPEC>\n       binparsegen structs [OPTIONS] <SCHEMA>\n"

def usageMessage : Command.UsageError → String
  | .missingCommand | .helpWanted => usage
  | .unknownCommand => "error: unrecognized subcommand\n\n" ++ usage
  | .missingArgument => "error: a required argument was not provided\n\n" ++ usage
  | .unknownArgument => "error: unexpected argument found\n\n" ++ usage
  | .missingValue => "error: a value is required but none was supplied\n\n" ++ usage
  | .invalidValue => "error: invalid value for an argument\n\n" ++ usage
  | .unexpectedValue => "error: unexpected value for an argument\n\n" ++ usage
  | .repeatedArgument => "error: an argument cannot be used multiple times\n\n" ++ usage

def runWith (arguments : List String) : IO UInt32 := do
  match Command.read arguments with
  | .error .helpWanted =>
    IO.print usage
    return 0
  | .error error =>
    IO.eprint (usageMessage error)
    return 2
  | .ok invocation =>
    match ← (Command.run disk invocation.command).run with
    | .ok text =>
      IO.print text
      return 0
    | .error failure =>
      IO.eprintln ("error: " ++ failure.message)
      return 1

end BinaryLayout.Main

def main (arguments : List String) : IO UInt32 :=
  BinaryLayout.Main.runWith arguments
