import BinaryLayout.Decode.Value
import BinaryLayout.Options
import BinaryLayout.Source.Basic
import BinaryLayout.Text.Utf16

/-!
# Decoding

What the generated code computes for a kind: the value at an offset and the bytes that the value takes
there. Offsets wrap around at 64 bits, and what cannot be read counts as absent.
-/

namespace BinaryLayout

/-- What decoding depends on besides the kind. -/
structure Decoder where
  source : Source
  /-- The most elements of an array. -/
  arrayLimit : Nat
  /-- The bytes that are scanned for a terminator. -/
  window : Nat
  /-- The declared sizes of the structures. -/
  sizeOf : String → UInt64

namespace Decoder

/-- The bytes at an offset, as many as there are. -/
def bytesAt (decoder : Decoder) (offset : UInt64) (length : Nat) : List UInt8 :=
  (decoder.source.read offset length).available

/-! ## Integers -/

/-- The number whose least significant byte comes first. -/
def littleEndian : List UInt8 → Nat
  | [] => 0
  | byte :: rest => byte.toNat + 256 * littleEndian rest

/-- The unsigned integer at an offset, zero if not all of its bytes are there. -/
def raw (decoder : Decoder) (width : Width) (offset : UInt64) : Nat :=
  let bytes := decoder.bytesAt offset width.bytes
  if bytes.length = width.bytes then littleEndian bytes else 0

def integer (decoder : Decoder) (type : IntegerType) (offset : UInt64) : Int :=
  type.interpret (decoder.raw type.width offset)

def word (decoder : Decoder) (width : Width) (offset : UInt64) : UInt64 :=
  (decoder.raw width offset).toUInt64

def bitField (decoder : Decoder) (field : BitField) (offset : UInt64) : UInt64 :=
  (decoder.word field.width offset &&& field.mask) >>> field.start.val.toUInt64

/-! ## Names -/

/-- The name of a value. -/
def nameOf (choices : Enumeration) (value : UInt64) : String :=
  (choices.arms.lookup value).getD "Unknown"

/-- The names that hold of a value, in order and each once. -/
def namesOf (flags : Flags) (value : UInt64) : List String :=
  let holding := flags.predicates.filter fun (mask, _) ↦ value &&& mask != 0
  (Ordered.ofList (holding.map fun (_, name) ↦ (name, ()))).map Prod.fst

/-! ## Texts -/

/-- The length of the text before a double zero, rounded up to a whole unit. -/
def utf16End? (bytes : List UInt8) : Option Nat :=
  ((bytes.zip bytes.tail).findIdx? fun (first, second) ↦ first == 0 && second == 0).map
    fun index ↦ index + index % 2

/-- The bytes of a terminated text before its terminator. -/
def beforeTerminator (encoding : Encoding) (bytes : List UInt8) : List UInt8 :=
  match encoding with
  | .bytes => bytes.takeWhile (· != 0)
  | .utf16 =>
    let whole := bytes.length - 1
    bytes.take ((utf16End? bytes).getD (whole + whole % 2))

/-- The bytes that a terminated text takes, its terminator included as far as it is there. -/
def terminatedSize (encoding : Encoding) (bytes : List UInt8) : Nat :=
  match encoding with
  | .bytes => min ((bytes.takeWhile (· != 0)).length + 1) bytes.length
  | .utf16 =>
    match utf16End? bytes with
    | some stop => min (stop + 2) bytes.length
    | none => bytes.length

def textOf (encoding : Encoding) (bytes : List UInt8) : String :=
  match encoding with
  | .bytes => Text.Utf8.decode bytes
  | .utf16 => Text.Utf16.decode bytes

def text (decoder : Decoder) (encoding : Encoding) (length : Option UInt64) (offset : UInt64) :
    String :=
  match length with
  | some bytes => textOf encoding (decoder.bytesAt offset bytes.toNat)
  | none => textOf encoding (beforeTerminator encoding (decoder.bytesAt offset decoder.window))

/-- The bytes that a text at an offset takes. -/
def textSize (decoder : Decoder) (encoding : Encoding) (length : Option UInt64) (offset : UInt64) :
    UInt64 :=
  match length with
  | some bytes => bytes
  | none => (terminatedSize encoding (decoder.bytesAt offset decoder.window)).toUInt64

/-! ## Kinds -/

/-- The bytes that a value of a kind, decoded at an offset, takes. -/
def measure (decoder : Decoder) : Kind → Value → UInt64 → UInt64
  | .integer type, _, _ => type.width.bytes.toUInt64
  | .bitField field, _, _ => field.width.bytes.toUInt64
  | .enumeration choices, _, _ => choices.width.bytes.toUInt64
  | .flags names, _, _ => names.width.bytes.toUInt64
  | .signature expected, _, _ => expected.length.toUInt64
  | .text encoding length, _, offset => decoder.textSize encoding length offset
  | .array _ element, .array items, offset =>
    items.foldl (fun stop item ↦ stop + decoder.measure element item stop) offset - offset
  | .array _ _, _, _ => 0
  | .pointer _, _, _ => 8
  | .reference _, .handle _ _ size, _ => size
  | .reference _, _, _ => 0

/-- The results of `count` steps from a state, behind those in `results`, which come from the last. -/
@[specialize]
def steps {α σ : Type} (step : σ → α × σ) : Nat → σ → List α → List α
  | 0, _, results => results.reverse
  | count + 1, state, results =>
    let (result, next) := step state
    steps step count next (result :: results)

/-- Values decoded one behind the other. -/
@[inline]
def elements (decode : UInt64 → Value) (size : Value → UInt64 → UInt64) (count : Nat)
    (offset : UInt64) : List Value :=
  steps
    (fun position ↦
      let value := decode position
      (value, position + size value position)) count offset []

/-- A count that is not negative and within the limit. -/
def clamp (decoder : Decoder) (count : Int) : Nat :=
  min count.toNat decoder.arrayLimit

/-- The value of a kind at an offset. An array whose count is another field has no elements here, where
there is no structure to take it from. -/
def value (decoder : Decoder) : Kind → UInt64 → Value
  | .integer type, offset => .integer type (decoder.integer type offset)
  | .bitField field, offset => .bits (decoder.bitField field offset)
  | .enumeration choices, offset =>
    let value := decoder.word choices.width offset
    .enumeration value (nameOf choices value)
  | .flags names, offset =>
    let value := decoder.word names.width offset
    .flags value (namesOf names value)
  | .signature expected, offset => .signature (decoder.bytesAt offset expected.length) expected
  | .text encoding length, offset => .text (decoder.text encoding length offset)
  | .array (.fixed count) element, offset =>
    .array (elements (decoder.value element) (decoder.measure element) (decoder.clamp count) offset)
  | .array (.sibling _) _, _ => .array []
  | .pointer element, offset => decoder.value element (decoder.word .w64 offset)
  | .reference target, offset => .handle target offset (decoder.sizeOf target)

/-- An array of the given count. -/
def array (decoder : Decoder) (element : Kind) (count : Int) (offset : UInt64) : Value :=
  .array (elements (decoder.value element) (decoder.measure element) (decoder.clamp count) offset)

end Decoder

end BinaryLayout
