import BinaryLayout.Field.Parameters
import BinaryLayout.Name

/-!
# Field Entries

An entry of a schema, `[offset, [kind, parameters]]`, gives the offset of a field and its kind. The
parameters of arrays and pointers name the kind of their element in the same way.
-/

namespace BinaryLayout

/-- What can be wrong with an entry. -/
inductive EntryError
  | malformed (entry : Json)
  | offset (found : Json)
  | kindName (found : Json)
  | parameters (kind : String) (error : Json.Error)
  | missingTarget (kind : String)
  | bitRange (start stop : Nat)
  | structureName (name : String)
deriving Repr

def EntryError.message : EntryError → String
  | .malformed entry => "expected [offset, [kind, params]], found " ++ entry.compact
  | .offset found => "offset must be a non-negative integer, found " ++ found.compact
  | .kindName found => "kind name must be a string, found " ++ found.compact
  | .parameters kind error => "invalid " ++ kind ++ " parameters: " ++ error.message
  | .missingTarget kind => kind ++ " requires a `target`"
  | .bitRange start stop =>
    "bit range " ++ toString start ++ ".." ++ toString stop ++ " does not fit in 64 bits"
  | .structureName name => "`" ++ name ++ "` is not a usable structure name"

/-- A kind as an entry describes it, with the name of the structure that its innermost part refers
to, as written there. -/
structure Description where
  kind : Kind
  referred : Option String := none
deriving DecidableEq, Repr

namespace Description

/-- Parameters that are left out or null are an empty object. -/
def given : Option Json → Json
  | none | some .null => .object []
  | some value => value

/-- The result of decoding parameters of the named kind. -/
def parameters {α : Type} (kind : String) (decode : Json → Except Json.Error α)
    (value : Option Json) : Except EntryError α :=
  (decode (given value)).mapError (.parameters kind)

/-- Bit fields lie within 64 bits. -/
def ofBitRange (range : Parameters.BitRange) : Except EntryError Description :=
  if lower : range.start < 64 then
    if upper : range.stop < 65 then
      .ok ⟨.bitField ⟨⟨range.start, lower⟩, ⟨range.stop, upper⟩, range.width⟩, none⟩
    else .error (.bitRange range.start range.stop)
  else .error (.bitRange range.start range.stop)

def ofReference (name : String) : Except EntryError Description :=
  if Name.isIdentifier (Name.canonical name) then
    .ok ⟨.reference (Name.canonical name), some name⟩
  else .error (.structureName name)

/-- The description of a kind that has no element. -/
def simple (name : String) (value : Option Json) : Except EntryError Description := do
  match name with
  | "Enumeration" => return ⟨.enumeration (← parameters name Parameters.enumeration value), none⟩
  | "Flags" => return ⟨.flags (← parameters name Parameters.flags value), none⟩
  | "BitField" => ofBitRange (← parameters name Parameters.bitRange value)
  | "Signature" =>
    let expected ← parameters name Parameters.signature value
    return ⟨.signature expected.toUTF8.data.toList, none⟩
  | "String" => return ⟨.text .bytes (← parameters name Parameters.length value), none⟩
  | "UnicodeString" => return ⟨.text .utf16 (← parameters name Parameters.length value), none⟩
  | _ =>
    match IntegerType.ofName? name with
    | some type => return ⟨.integer type, none⟩
    | none => ofReference name

end Description

namespace Entry

/-- The name and the parameters of a kind. A name may stand for itself. -/
def kindParts (entry : Json) : Json → Except EntryError (Json × Option Json)
  | .array [] => .error (.malformed entry)
  | .array (name :: rest) => .ok (name, rest.head?)
  | name => .ok (name, none)

/-- The offset, and the name and the parameters of the kind. -/
def parts (entry : Json) : Except EntryError (UInt64 × String × Option Json) := do
  match entry with
  | .array (offset :: kind :: _) =>
    let some position := offset.natural? | .error (.offset offset)
    let (name, value) ← kindParts entry kind
    let some written := name.string? | .error (.kindName name)
    return (position, written, value)
  | _ => .error (.malformed entry)

end Entry

end BinaryLayout
