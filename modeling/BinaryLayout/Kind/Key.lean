import BinaryLayout.Checksum
import BinaryLayout.Kind.Basic
import BinaryLayout.Options
import BinaryLayout.Text.ByteLiteral
import BinaryLayout.Text.Quoted

/-!
# Keys of Kinds

The key of a kind is a fragment of an identifier that tells it from other kinds. Array helpers are
named after the key of their element. Names and bytes enter a key through the checksum of a text that
determines them.
-/

namespace BinaryLayout

/-- The text that determines the choices, with the names in quotes. -/
def Enumeration.canonical (quote : String → String) (enumeration : Enumeration) : String :=
  String.join <| enumeration.choices.map fun (key, name) ↦
    toString key ++ "=" ++ quote name ++ ";"

def Enumeration.key (enumeration : Enumeration) : String :=
  "enum_" ++ (IntegerType.unsigned enumeration.width).key ++ "_" ++
    Checksum.digest (enumeration.canonical Text.Quoted.quote)

/-- One name of a flag set, with a letter for the map that it stands in. -/
def Flags.record (quote : String → String) (letter : Char) (entry : String × UInt64) : String :=
  String.ofList [letter, ':'] ++ quote entry.1 ++ "=" ++ toString entry.2.toNat ++ ";"

/-- The text that determines both maps, with the names in quotes. -/
def Flags.canonical (quote : String → String) (flags : Flags) : String :=
  String.join (flags.bitmap.map (record quote 'b')) ++
    String.join (flags.maskmap.map (record quote 'm'))

def Flags.key (flags : Flags) : String :=
  "flags_" ++ (IntegerType.unsigned flags.width).key ++ "_" ++
    Checksum.digest (flags.canonical Text.Quoted.quote)

def BitField.key (field : BitField) : String :=
  "bitfield_" ++ (IntegerType.unsigned field.width).key ++ "_" ++ toString field.start.val ++ "_" ++
    toString field.stop.val

/-- A count that generated code can hold: not negative and within the limit. -/
def Options.clamp (options : Options) (count : Int) : Nat :=
  min count.toNat options.arrayLimit

def Count.key (options : Options) : Count → String
  | .fixed count => toString (options.clamp count)
  | .sibling _ => "dyn"

def Encoding.key : Encoding → String
  | .bytes => "string"
  | .utf16 => "utf16"

namespace Kind

def key (options : Options) : Kind → String
  | .integer type => type.key
  | .bitField field => field.key
  | .enumeration choices => choices.key
  | .flags names => names.key
  | .signature expected => "signature_" ++ Checksum.digest (Text.ByteLiteral.literal expected)
  | .text encoding none => encoding.key
  | .text encoding (some length) => encoding.key ++ "_" ++ toString length.toNat
  | .array count element => "array_" ++ count.key options ++ "_" ++ element.key options
  | .pointer element => "ptr_" ++ element.key options
  | .reference target => target

end Kind

end BinaryLayout
