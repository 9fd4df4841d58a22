/-!
# Arguments

How the arguments of a command are read. An option takes its value from the same argument or from the
next one, and short options can share an argument. A value is checked only when the next option or value
is recognised, or at the end, so that an argument nobody knows is reported first.
-/

namespace BinaryLayout.Command

/-- Why arguments make no command. -/
inductive UsageError
  | missingCommand
  | unknownCommand
  | helpWanted
  | missingArgument
  | unknownArgument
  | missingValue
  | invalidValue
  | unexpectedValue
  | repeatedArgument
deriving DecidableEq, Repr

/-- What the value of an argument has to be. -/
inductive ValueForm
  | path
  | number
  | text
deriving DecidableEq, Repr

/-- What an argument does. -/
inductive Action
  | takes (form : ValueForm)
  | flag
  | count
  | help
deriving DecidableEq, Repr

structure Argument where
  name : String
  short : Option Char := none
  long : Option String := none
  action : Action
deriving DecidableEq, Repr

/-- The value of an argument. -/
inductive Given
  | text (value : String)
  | number (value : UInt64)
deriving DecidableEq, Repr

/-- A number in decimal digits, with or without a plus sign, of 64 bits at most. -/
def number? (text : String) : Option UInt64 :=
  let digits :=
    match text.toList with
    | '+' :: rest => rest
    | characters => characters
  if digits.isEmpty || !digits.all Char.isDigit then none
  else
    let value : Nat := digits.foldl (fun value digit ↦ 10 * value + (digit.toNat - '0'.toNat)) 0
    if value < UInt64.size then some value.toUInt64 else none

def ValueForm.check (form : ValueForm) (value : String) : Except UsageError Given :=
  match form with
  | .path => if value.isEmpty then .error .missingValue else .ok (.text value)
  | .text => .ok (.text value)
  | .number =>
    match number? value with
    | some found => .ok (.number found)
    | none => .error .invalidValue

/-- The arguments that a command takes. -/
structure Grammar where
  options : List Argument
  positionals : List Argument
deriving DecidableEq, Repr

/-- What has been read of the arguments. -/
structure Progress where
  given : List (String × Given) := []
  /-- An argument whose value is not checked yet, or not even there. -/
  pending : Option (Argument × Option String) := none
  positionals : List Argument
  /-- Whether only values follow. -/
  valuesOnly : Bool := false

namespace Progress

/-- The largest count of a repeated flag. -/
def countLimit : Nat := 255

/-- Records an argument, with its value if it takes one. -/
def record (progress : Progress) (argument : Argument) (value : Option String) :
    Except UsageError Progress :=
  let add (found : Given) : Progress :=
    { progress with given := (argument.name, found) :: progress.given }
  let present := (progress.given.lookup argument.name).isSome
  match argument.action, value with
  | .takes _, none => .error .missingValue
  | .takes form, some text =>
    if present then .error .repeatedArgument else (form.check text).map add
  | .flag, _ => if present then .error .repeatedArgument else .ok (add (.number 1))
  | .count, _ =>
    match progress.given.lookup argument.name with
    | some (.number count) => .ok (add (.number (min (count.toNat + 1) countLimit).toUInt64))
    | _ => .ok (add (.number 1))
  | .help, _ => .error .helpWanted

/-- Records the argument that is pending. -/
def settle (progress : Progress) : Except UsageError Progress :=
  match progress.pending with
  | none => .ok progress
  | some (argument, value) => { progress with pending := none }.record argument value

/-- An option that was recognised, with the value that is attached to it. -/
def option (progress : Progress) (argument : Argument) (attached : Option String) :
    Except UsageError Progress := do
  let settled ← progress.settle
  match argument.action, attached with
  | .takes _, none => return { settled with pending := some (argument, none) }
  | _, _ => settled.record argument attached

/-- The name and the value of an option of the form `name=value`. -/
def splitValue (characters : List Char) : String × Option String :=
  let name := String.ofList (characters.takeWhile (· != '='))
  match characters.dropWhile (· != '=') with
  | [] => (name, none)
  | _ :: value => (name, some (String.ofList value))

/-- A long option, without its dashes. -/
def longOption (grammar : Grammar) (progress : Progress) (characters : List Char) :
    Except UsageError Progress :=
  let (name, value) := splitValue characters
  match grammar.options.find? (·.long == some name) with
  | none => .error .unknownArgument
  | some argument =>
    match argument.action, value with
    | .takes _, _ => progress.option argument value
    | _, some _ => .error .unexpectedValue
    | _, none => progress.option argument none

/-- Short options, without their dash. The rest behind one that takes a value is its value. -/
def shortOptions (grammar : Grammar) (progress : Progress) : List Char → Except UsageError Progress
  | [] => .ok progress
  | letter :: rest =>
    match grammar.options.find? (·.short == some letter) with
    | none => .error .unknownArgument
    | some argument =>
      match argument.action with
      | .takes _ =>
        match rest with
        | [] => progress.option argument none
        | '=' :: value => progress.option argument (some (String.ofList value))
        | value => progress.option argument (some (String.ofList value))
      | _ => do shortOptions grammar (← progress.option argument none) rest

/-- The value of an argument that stands by its place. -/
def positional (progress : Progress) (value : String) : Except UsageError Progress :=
  match progress.positionals with
  | [] => .error .unknownArgument
  | argument :: rest => do
    let settled ← progress.settle
    return { settled with pending := some (argument, some value), positionals := rest }

/-- A value: of the option that waits for one, or by its place. -/
def value (progress : Progress) (text : String) : Except UsageError Progress :=
  match progress.pending with
  | some (argument, none) => .ok { progress with pending := some (argument, some text) }
  | _ => progress.positional text

/-- The next argument. -/
def step (grammar : Grammar) (progress : Progress) (argument : String) :
    Except UsageError Progress :=
  if progress.valuesOnly then progress.positional argument
  else
    match argument.toList with
    | ['-', '-'] => .ok { progress with valuesOnly := true }
    | '-' :: '-' :: long => longOption grammar progress long
    | ['-'] => progress.value argument
    | '-' :: short => shortOptions grammar progress short
    | _ => progress.value argument

end Progress

/-- The values that arguments give. Every positional argument is required. -/
def Grammar.read (grammar : Grammar) (arguments : List String) :
    Except UsageError (List (String × Given)) := do
  let start : Progress := { positionals := grammar.positionals }
  let progress ← (← arguments.foldlM (Progress.step grammar) start).settle
  if progress.positionals.isEmpty then return progress.given else throw .missingArgument

end BinaryLayout.Command
