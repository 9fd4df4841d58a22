import BinaryLayout.Field.Entry
import BinaryLayout.Helper
import BinaryLayout.Spec

/-!
# The Context of a Run

A run collects the fields that it resolves and the helpers that they need, each helper once. Fields are
numbered in the order in which they come, an element before the array or pointer that contains it. The
context also keeps what the run has to report.
-/

namespace BinaryLayout

/-- A resolved field. -/
structure Field where
  /-- The offset in its structure; zero for the element of an array or pointer. -/
  offset : UInt64
  kind : Kind
  /-- The number of the field that holds the element. -/
  target : Option Nat
deriving DecidableEq, Repr

/-- A field with its number in the run. -/
structure Numbered where
  number : Nat
  field : Field
deriving DecidableEq, Repr

/-- What a run reports to those who follow its steps. -/
inductive Event
  | registered (helper kind : String)
  | filtered (struct field : String)
  /-- A reference to a structure that the run does not select. -/
  | outside (struct : String)
deriving DecidableEq, Repr

inductive Warning
  | structureMissing (struct : String)
  | choiceDropped (key : Int) (name : String) (bits : Nat)
  | flagDropped (name : String) (position : UInt64)
deriving DecidableEq, Repr

/-- The names that the code decoding this kind leaves out. -/
def Kind.decodeWarnings : Kind → List Warning
  | .enumeration choices =>
    choices.dropped.map fun (key, name) ↦ .choiceDropped key name choices.width.bits
  | .flags names => names.dropped.map fun (name, position) ↦ .flagDropped name position
  | .pointer element => element.decodeWarnings
  | _ => []

/-- The names that the helper of this kind leaves out. -/
def Kind.helperWarnings : Kind → List Warning
  | .array _ element => element.decodeWarnings
  | _ => []

structure Context where
  options : Options
  arena : Array Field := #[]
  /-- The helpers by identity, in increasing order. -/
  helpers : List (String × Code) := []
  events : List Event := []
  warnings : List Warning := []

namespace Context

def report (event : Event) (context : Context) : Context :=
  { context with events := context.events ++ [event] }

def warnAll (warnings : List Warning) (context : Context) : Context :=
  { context with warnings := context.warnings ++ warnings }

def hasHelper (context : Context) (identity : String) : Bool :=
  (context.helpers.lookup identity).isSome

/-- Records the helper of a kind, unless its identity is known. -/
def record (kind : Kind) (context : Context) : Context :=
  match kind.identity? context.options with
  | none => context
  | some identity =>
    if context.hasHelper identity then context
    else
      { context with
        helpers := Ordered.insert identity (kind.helperCode context.options) context.helpers
        events := context.events ++ [.registered identity kind.name]
        warnings := context.warnings ++ kind.helperWarnings }

/-- Records the helpers that a kind needs, those it depends on first. -/
def register : Kind → Context → Context
  | .array count element, context => record (.array count element) (register element context)
  | .pointer element, context =>
    record (.pointer element) (register element (record Kind.word context))
  | kind, context =>
    record kind (kind.dependencies.foldl (fun before needed ↦ record needed before) context)

/-- Gives a field the next number. -/
def allocate (field : Field) (context : Context) : Numbered × Context :=
  (⟨context.arena.size, field⟩, { context with arena := context.arena.push field })

end Context

/-- A step that works on the context of a run and may end with an error. What it has done until then
stays. -/
abbrev Attempt (ε : Type) := ExceptT ε (StateM Context)

namespace Context

/-- Records the helpers of a kind and gives its field the next number. -/
def place (offset : UInt64) (kind : Kind) (target : Option Nat) : Attempt EntryError Numbered := do
  modify (register kind)
  modifyGet (allocate ⟨offset, kind, target⟩)

/-- Resolves the element that the parameters of an array or pointer name. -/
def resolveTarget (kind : String) (given : Parameters.Target)
    (resolve : String → Option Json → Attempt EntryError Numbered) :
    Attempt EntryError Numbered := do
  let some target := given.target | throw (.missingTarget kind)
  resolve target given.arguments

/-- Resolves a kind by its name and parameters and places it at the offset, an element before the array
or pointer that contains it. The fuel exceeds the depth of the parameters. -/
def resolveNamed (spec : Spec) :
    Nat → String → Option Json → UInt64 → Attempt EntryError Numbered
  | 0, name, _, _ => throw (.structureName name)
  | fuel + 1, name, value, offset => do
    if name = "Array" then
      let given ← Description.parameters name Parameters.target value
      let element ← resolveTarget name given (resolveNamed spec fuel · · 0)
      place offset (.array (given.count.getD (.fixed 0)) element.field.kind) element.number
    else if name = "Pointer" then
      let given ← Description.parameters name Parameters.target value
      let element ← resolveTarget name given (resolveNamed spec fuel · · 0)
      place offset (.pointer element.field.kind) element.number
    else
      let found ← Description.simple name value
      if let some struct := found.referred then
        if !spec.selectsStruct struct then modify (report (.outside struct))
      place offset found.kind none

/-- Resolves an entry of a schema. -/
def resolveEntry (spec : Spec) (entry : Json) : Attempt EntryError Numbered := do
  let (offset, name, value) ← Entry.parts entry
  resolveNamed spec ((Description.given value).depth + 1) name value offset

/-- The field of an entry with the number that it got, or what is wrong with the entry, and the context
after that. -/
def resolve (spec : Spec) (entry : Json) (context : Context) :
    Except EntryError Numbered × Context :=
  (resolveEntry spec entry).run.run context

end Context

end BinaryLayout
