import BinaryLayout.Code
import BinaryLayout.Kind.Key
import BinaryLayout.Name

/-!
# Code of Kinds

The expressions of generated code for a kind: its type, how a value is decoded at the local `offset`,
and how many bytes the value takes there.
-/

namespace BinaryLayout

open Code (Part)

/-- The name of the function that reads an integer. -/
def IntegerType.reader (type : IntegerType) : String :=
  "parse_" ++ type.key

/-- Where an expression stands: in the accessor of a field, or in a shared helper. -/
inductive Site
  | accessor
  | helper
deriving DecidableEq, Repr

namespace Site

def reader : Site → String
  | .accessor => "self.reader"
  | .helper => "reader"

def profile : Site → String
  | .accessor => "self.profile"
  | .helper => "profile"

end Site

def hex (number : Nat) : String :=
  "0x" ++ String.ofList (Nat.toDigits 16 number)

namespace Kind

/-- The type of a decoded value. -/
def typeParts : Kind → List Part
  | .integer type => [.text type.typeName]
  | .bitField _ => ["u64"]
  | .enumeration _ => [.mention "Enumeration"]
  | .flags _ => [.mention "Flags"]
  | .signature _ => [.mention "Signature"]
  | .text _ _ => ["String"]
  | .array _ element => [.text "Vec<"] ++ element.typeParts ++ [.text ">"]
  | .pointer element => element.typeParts
  | .reference target => [.text target, "<'a>"]

/-- The function that decodes arrays of the given element. -/
def arrayReader (options : Options) (element : Kind) : String :=
  "parse_array_" ++ element.key options

/-- The function that finds the size of a terminated text. -/
def terminatedSize : Encoding → String
  | .bytes => "terminated_string_size"
  | .utf16 => "terminated_utf16_size"

/-- The bytes that the value `value`, decoded at `offset`, takes. Terminated texts are measured in the
source, and the elements of an array one after another, each where it starts. -/
def sizeParts (value offset : String) : Kind → List Part
  | .integer type => [.text (toString type.width.bytes)]
  | .bitField field => [.text (toString field.width.bytes)]
  | .enumeration choices => [.text (toString choices.width.bytes)]
  | .flags names => [.text (toString names.width.bytes)]
  | .signature expected => [.text (toString expected.length)]
  | .text _ (some length) => [.text (toString length.toNat)]
  | .text encoding none => [.mention (terminatedSize encoding), .text ("(reader, " ++ offset ++ ")")]
  | .array _ element =>
    [.text (value ++ ".iter().fold(" ++ offset ++ ", |end, item| end.wrapping_add(")] ++
      element.sizeParts "(*item)" "end" ++
      [.text (" as u64)).wrapping_sub(" ++ offset ++ ")")]
  | .pointer _ => ["8"]
  | .reference _ => [.text ("Structure::size(&" ++ value ++ ")")]

/-- The count that is handed to an array's function. Without a structure at hand there is no sibling to
ask, and the placeholder stands for its number. -/
def countText (options : Options) (site : Site) (count : Count)
    (placeholder : String := "0") : String :=
  match site, count with
  | _, .fixed count => toString (options.clamp count)
  | .accessor, .sibling field => "self." ++ Name.escaped field ++ "() as i64"
  | .helper, .sibling _ => placeholder

/-- A call of a function with the reader and `offset` before the other arguments. -/
def callParts (site : Site) (function : String) (arguments : List String) : List Part :=
  [.mention function,
   .text ("(" ++ String.intercalate ", " (site.reader :: "offset" :: arguments) ++ ")")]

/-- The functions that decode a text with and without a terminator. -/
def textReader (isTerminated : Bool) (encoding : Encoding) : String :=
  match encoding, isTerminated with
  | .bytes, true => "parse_terminated_string"
  | .bytes, false => "parse_string"
  | .utf16, true => "parse_terminated_utf16_string"
  | .utf16, false => "parse_utf16_string"

/-- The raw integer that names are given to. -/
def backingParts (site : Site) (width : Width) : List Part :=
  callParts site (IntegerType.unsigned width).reader []

/-- Bits of a raw integer, shifted down after a mask. -/
def bitsParts (site : Site) (width : Width) (mask : UInt64) (start : Nat) : List Part :=
  [.text "(("] ++ backingParts site width ++
    [.text (" as u64) & " ++ hex mask.toNat ++ ") >> " ++ toString start)]

def enumerationCode (site : Site) (width : Width) (arms : List (UInt64 × String)) : Code :=
  .block []
    [.line ([.text "let value = "] ++ backingParts site width ++ [.text ";"]),
     .block ["let name = match value"]
      (arms.map (fun (value, name) ↦
        Code.line [.text (hex value.toNat), " => ", .text (Text.Quoted.quote name), ","]) ++
        [Code.line ["_ => \"Unknown\","]]) [";"],
     .line (Code.record [.mention "Enumeration"] ["value: value as u64", "name"])]

def flagsCode (site : Site) (width : Width) (predicates : List (UInt64 × String)) : Code :=
  let value : Code := .line ([.text "let value = "] ++ backingParts site width ++ [.text " as u64;"])
  if predicates.isEmpty then
    .block []
      [value,
       .line (Code.record [.mention "Flags"] ["value", "names: std::collections::BTreeSet::new()"])]
  else
    .block []
      ([value, Code.line ["let mut names = std::collections::BTreeSet::new();"]] ++
        predicates.map (fun (mask, name) ↦
          Code.block [.text ("if value & " ++ hex mask.toNat ++ " != 0")]
            [.line [.text ("names.insert(" ++ Text.Quoted.quote name ++ ");")]]) ++
        [.line (Code.record [.mention "Flags"] ["value", "names"])])

def signatureParts (site : Site) (expected : List UInt8) : List Part :=
  [.mention "Signature", .text " \x7b value: "] ++
    callParts site "parse_signature" [toString expected.length] ++
    [.text (", signature: " ++ Text.ByteLiteral.literal expected ++ " \x7d")]

def textParts (site : Site) (encoding : Encoding) (length : Option UInt64) : List Part :=
  callParts site (textReader length.isNone encoding) (length.map (toString ·.toNat)).toList

/-- A call of the function of an array with a count. -/
def arrayCall (site : Site) (function count : String) : Code :=
  .wrapped [.mention function]
    ("(" ++ site.profile ++ ", " ++ site.reader ++ ", offset, " ++ count ++ ")")

/-- Code that decodes at the offset that is read. -/
def followCode (site : Site) (target : Code) : Code :=
  .block []
    [.line ([.text "let offset = "] ++ callParts site (IntegerType.unsigned .w64).reader [] ++
      [.text ";"]),
     target]

def handleParts (site : Site) (target : String) : List Part :=
  [.text (site.profile ++ "."), .text target, .text ("(" ++ site.reader ++ ", offset)")]

/-- The expression that decodes one value at the local `offset`. -/
def decodeCode (options : Options) (site : Site) (placeholder : String := "0") : Kind → Code
  | .integer type => .line (callParts site type.reader [])
  | .bitField field => .line (bitsParts site field.width field.mask field.start.val)
  | .enumeration choices => enumerationCode site choices.width choices.arms
  | .flags names => flagsCode site names.width names.predicates
  | .signature expected => .line (signatureParts site expected)
  | .text encoding length => .line (textParts site encoding length)
  | .array count element =>
    arrayCall site (arrayReader options element) (countText options site count placeholder)
  | .pointer element => followCode site (element.decodeCode options site placeholder)
  | .reference target => .line (handleParts site target)

/-- The method that reads a field. The offset is looked up on every call, so that a changed offset
takes effect at once. -/
def accessorCode (options : Options) (owner field : String) (kind : Kind)
    (placeholder : String := "0") : Code :=
  (Code.block
    ([.text ("pub fn " ++ Name.escaped field ++ "(&self) -> ")] ++ kind.typeParts)
    [.line [.text "let offset = self.profile.", .offset owner field,
      .text ".wrapping_add(self.offset);"],
     kind.decodeCode options .accessor placeholder]).indented 4

end Kind

end BinaryLayout
