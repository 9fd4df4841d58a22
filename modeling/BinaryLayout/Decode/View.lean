import BinaryLayout.Artifact
import BinaryLayout.Decode.Kind

/-!
# Views

A view reads a source with a profile: it gives the fields of a structure at any offset and the text that
the formatter of a structure writes. The offsets of the fields can be changed.
-/

namespace BinaryLayout

/-- The offsets of the fields, by the names that the artifact gives them. -/
abbrev Offsets := List (String × UInt64)

namespace Offsets

def ofProfile (profile : Profile) : Offsets :=
  profile.offsets.map fun ((owner, field), value) ↦ (Code.offsetName owner field, value)

/-- Changes an offset that is there. -/
def change? (offsets : Offsets) (name : String) (value : UInt64) : Option Offsets :=
  if (offsets.lookup name).isNone then none
  else some (offsets.map fun (other, old) ↦ (other, if other = name then value else old))

/-- The text of a profile with its offsets. -/
def display (profile : String) (offsets : Offsets) : String :=
  if offsets.isEmpty then profile
  else
    let fields := offsets.map fun (name, value) ↦ name ++ ": " ++ toString value.toNat
    profile ++ " \x7b " ++ String.intercalate ", " fields ++ " \x7d"

end Offsets

structure View where
  options : Options
  profile : Profile
  offsets : Offsets
  source : Source

namespace View

/-- A view with the offsets of the schema. -/
def ofProfile (options : Options) (profile : Profile) (source : Source) : View :=
  ⟨options, profile, .ofProfile profile, source⟩

/-- The declared size of a structure. -/
def sizeOf (view : View) (name : String) : UInt64 :=
  ((view.profile.structure? name).map Structure.size).getD 0

def decoder (view : View) : Decoder :=
  ⟨view.source, view.options.arrayLimit, view.options.window, view.sizeOf⟩

/-- Where a field of a structure lies that starts at `base`. -/
def position (view : View) (struct : Structure) (field : String) (base : UInt64) : UInt64 :=
  ((view.offsets.lookup (Code.offsetName struct.name field)).getD 0) + base

/-- The number of elements that another field of the structure gives. -/
def siblingCount (view : View) (struct : Structure) (base : UInt64) (field : String) : Int :=
  match struct.member? field with
  | some sibling =>
    (view.decoder.value sibling.field.kind (view.position struct field base)).asCount
  | none => 0

/-- The value of a field of a structure at `base`. -/
def memberValue (view : View) (struct : Structure) (base : UInt64) (member : Member) : Value :=
  let offset := view.position struct member.name base
  match member.field.kind with
  | .array (.sibling field) element =>
    view.decoder.array element (view.siblingCount struct base field) offset
  | kind => view.decoder.value kind offset

def handle (view : View) (struct : Structure) (base : UInt64) : Value :=
  .handle struct.name base (view.sizeOf struct.name)

/-- The value of a field, if the structure and the field are there. -/
def get? (view : View) (struct : String) (base : UInt64) (field : String) : Option Value := do
  let found ← view.profile.structure? struct
  let member ← found.member? field
  return view.memberValue found base member

/-! ## Formatters -/

/-- The lines of a text, without their breaks. -/
def lines (text : String) : List String :=
  let pieces := text.splitOn "\n"
  let ended := pieces.dropLast.map fun line ↦
    if line.toList.getLast? = some '\r' then String.ofList line.toList.dropLast else line
  match pieces.getLast? with
  | some "" | none => ended
  | some last => ended ++ [last]

/-- Formats a structure at an offset. It gives no text if it does not end. -/
abbrev Formatter := String → UInt64 → Option String

/-- What the accessor of a structure gives that has the name, if there is one. -/
def accessor? (view : View) (struct : String) (base : UInt64) (name : String) : Option Value := do
  let found ← view.profile.structure? struct
  let member ← found.accessor? name
  return view.memberValue found base member

/-- The text of a structure, where `nested` formats those of the profile. Others have no formatter. -/
def textOf (view : View) (nested : Formatter) (name : String) (offset : UInt64) : Option String :=
  if (view.profile.structure? name).isSome then nested name offset else some ""

/-- What a method that takes no arguments gives. An accessor of the structure with the name of the method
goes before the method that all structures have. Where there is neither, code does not compile and
nothing is written. -/
def invoke (view : View) (nested : Formatter) (value : Value) (method : String) : Option Value :=
  match value with
  | .handle name offset _ =>
    match view.accessor? name offset method with
    | some found => some found
    | none => if method = "to_string" then (view.textOf nested name offset).map .text else some (.array [])
  | .text text => some (.array (if method = "lines" then (lines text).map .text else []))
  | _ => some (.array [])

/-- What is written for a line of a structure inside another one. -/
def lineText (view : View) (nested : Formatter) : Value → Option String
  | .handle name offset _ => view.textOf nested name offset
  | value => some value.display

/-- The lines of a value that is a structure. -/
def linesOf (view : View) (nested : Formatter) (value : Value) : Option (List String) := do
  let found ← Artifact.lineMethods.foldlM (view.invoke nested) value
  found.items.mapM (view.lineText nested)

/-- What the formatter of a structure writes for a field. -/
def displayMember (view : View) (nested : Formatter) (struct : Structure) (base : UInt64)
    (member : Member) : Option String :=
  let value := view.memberValue struct base member
  let line (text : String) : String := "  " ++ member.name ++ ": " ++ text ++ "\n"
  match Artifact.displayStyle view.profile member.field.kind with
  | .text | .display => some (line value.display)
  | .hex => some (line (hex value.unsigned))
  | .count => some (line ("[" ++ toString value.count ++ " elements]"))
  | .nested => (view.linesOf nested value).map fun texts ↦
      line "\x7b" ++ String.join (texts.map fun text ↦ "    " ++ text ++ "\n") ++ "  \x7d\n"
  | .skip => some ""

/-- What the formatter of a structure writes. -/
def format (view : View) (nested : Formatter) (name : String) (base : UInt64) : Option String :=
  match view.profile.structure? name with
  | none => some ""
  | some struct =>
    (struct.sortedMembers.mapM (view.displayMember nested struct base)).map fun fields ↦
      "struct " ++ struct.name ++ " @ " ++ hex base.toNat ++ ":\n" ++ String.join fields

/-- The text of a structure at an offset, if formatters call one another no deeper than the fuel. -/
def displayWith (view : View) : Nat → String → UInt64 → Option String
  | 0, _, _ => none
  | fuel + 1, name, base => view.format (view.displayWith fuel) name base

/-- The structures at all offsets, in number. A path of calls that is longer comes back to where it has
been, and will do so again. -/
def depth (view : View) : Nat :=
  view.profile.structures.length * UInt64.size

/-- The text of a structure at an offset, none if its formatter does not end. -/
def display (view : View) (name : String) (base : UInt64) : Option String :=
  view.displayWith (view.depth + 1) name base

end View

end BinaryLayout
