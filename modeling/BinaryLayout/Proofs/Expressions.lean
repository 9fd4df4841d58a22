import BinaryLayout.Decode.Kind
import BinaryLayout.Helper

/-!
# Expressions of Generated Code

Generated code decodes a value by one expression at the local `offset` and measures it by another, over
names that are in scope. Both are given here as trees with the text that code has for them and with what
they evaluate to. The functions that read integers, texts and signatures are taken as they are; the
function of an array is a loop over the two expressions of its element.

Sizes have names for values and offsets, and a walk inside a walk uses the same two names again.
-/

namespace BinaryLayout

open Code (Part)

/-- An expression for the bytes that a value takes, over the names of the value and of its offset. -/
inductive SizeExpression
  | bytes (count : Nat)
  /-- A terminated text is measured in the source. -/
  | terminated (encoding : Encoding) (offset : String)
  /-- The declared size of a structure. -/
  | declared (value : String)
  /-- The sizes of the elements, each measured as `(*item)` at `end`. -/
  | walk (value offset : String) (element : SizeExpression)

/-- The names of values and offsets, the innermost first. -/
structure Scope where
  values : List (String × Value)
  offsets : List (String × UInt64)

def Scope.inside (scope : Scope) (stop : UInt64) (item : Value) : Scope :=
  ⟨("(*item)", item) :: scope.values, ("end", stop) :: scope.offsets⟩

namespace SizeExpression

def parts : SizeExpression → List Part
  | .bytes count => [.text (toString count)]
  | .terminated encoding offset =>
    [.mention (Kind.terminatedSize encoding), .text ("(reader, " ++ offset ++ ")")]
  | .declared value => [.text ("Structure::size(&" ++ value ++ ")")]
  | .walk value offset element =>
    [.text (value ++ ".iter().fold(" ++ offset ++ ", |end, item| end.wrapping_add(")] ++
      element.parts ++ [.text (" as u64)).wrapping_sub(" ++ offset ++ ")")]

/-- The value of an expression, if its names are in scope and stand for what it asks for. -/
def eval (decoder : Decoder) : SizeExpression → Scope → Option UInt64
  | .bytes count, _ => some count.toUInt64
  | .terminated encoding offset, scope =>
    (scope.offsets.lookup offset).map (decoder.textSize encoding none)
  | .declared value, scope =>
    match scope.values.lookup value with
    | some (.handle _ _ size) => some size
    | _ => none
  | .walk value offset element, scope =>
    match scope.values.lookup value, scope.offsets.lookup offset with
    | some (.array items), some start =>
      (items.foldlM (fun stop item ↦ (element.eval decoder (scope.inside stop item)).map (stop + ·))
        start).map (· - start)
    | _, _ => none

end SizeExpression

namespace Kind

def sizeExpression (value offset : String) : Kind → SizeExpression
  | .integer type => .bytes type.width.bytes
  | .bitField field => .bytes field.width.bytes
  | .enumeration choices => .bytes choices.width.bytes
  | .flags names => .bytes names.width.bytes
  | .signature expected => .bytes expected.length
  | .text _ (some length) => .bytes length.toNat
  | .text encoding none => .terminated encoding offset
  | .array _ element => .walk value offset (element.sizeExpression "(*item)" "end")
  | .pointer _ => .bytes 8
  | .reference _ => .declared value

/-- The size that code writes for a kind is that expression. -/
theorem sizeParts_eq_parts (kind : Kind) : ∀ value offset : String,
    kind.sizeParts value offset = (kind.sizeExpression value offset).parts := by
  induction kind with
  | text encoding length => cases length <;> exact fun _ _ ↦ rfl
  | array count element ih => simp [sizeParts, sizeExpression, SizeExpression.parts, ih]
  | _ => exact fun _ _ ↦ rfl

end Kind

/-- The count that the function of an array is called with. -/
inductive CountExpression
  | literal (count : Nat)
  /-- Another field, which its accessor gives. -/
  | sibling (field : String)

namespace CountExpression

def text : CountExpression → String
  | .literal count => toString count
  | .sibling field => "self." ++ Name.escaped field ++ "() as i64"

/-- The value of a count, where `counts` gives those of the fields that can be asked for. -/
def eval (counts : String → Option Int) : CountExpression → Option Int
  | .literal count => some count
  | .sibling field => counts field

end CountExpression

/-- An expression that decodes a value at the local `offset`. -/
inductive DecodeExpression
  | integer (type : IntegerType)
  | bits (width : Width) (mask : UInt64) (start : Fin 64)
  | named (width : Width) (arms : List (UInt64 × String))
  | flagged (width : Width) (predicates : List (UInt64 × String))
  | signature (expected : List UInt8)
  | text (encoding : Encoding) (length : Option UInt64)
  /-- A call of the function whose loop has the expressions of the element. -/
  | array (function : String) (limit : Nat) (count : CountExpression) (element : DecodeExpression)
    (size : SizeExpression)
  /-- A block in which `offset` is what is read at the outer one. -/
  | follow (target : DecodeExpression)
  | handle (target : String)

namespace DecodeExpression

def code (site : Site) : DecodeExpression → Code
  | .integer type => .line (Kind.callParts site type.reader [])
  | .bits width mask start => .line (Kind.bitsParts site width mask start.val)
  | .named width arms => Kind.enumerationCode site width arms
  | .flagged width predicates => Kind.flagsCode site width predicates
  | .signature expected => .line (Kind.signatureParts site expected)
  | .text encoding length => .line (Kind.textParts site encoding length)
  | .array function _ count _ _ => Kind.arrayCall site function count.text
  | .follow target => Kind.followCode site (target.code site)
  | .handle target => .line (Kind.handleParts site target)

/-- A round of a loop: `let value = ..; offset = offset.wrapping_add(..); result.push(value);`. -/
def round (decode : UInt64 → Option Value) (size : Scope → Option UInt64)
    (state : UInt64 × List Value) : Option (UInt64 × List Value) := do
  let value ← decode state.1
  let bytes ← size ⟨[("value", value)], [("offset", state.1)]⟩
  return (state.1 + bytes, state.2 ++ [value])

def rounds (decode : UInt64 → Option Value) (size : Scope → Option UInt64) :
    Nat → UInt64 × List Value → Option (UInt64 × List Value)
  | 0, state => some state
  | count + 1, state => (round decode size state).bind (rounds decode size count)

def loop (decode : UInt64 → Option Value) (size : Scope → Option UInt64) (limit : Nat) (count : Int)
    (offset : UInt64) : Option Value :=
  (rounds decode size (max 0 (min count limit)).toNat (offset, [])).map fun state ↦ .array state.2

/-- The value of an expression. Inside the function of an array there are no fields to ask for counts. -/
def eval (decoder : Decoder) : DecodeExpression → (String → Option Int) → UInt64 → Option Value
  | .integer type, _, offset => some (.integer type (decoder.integer type offset))
  | .bits width mask start, _, offset =>
    some (.bits ((decoder.word width offset &&& mask) >>> start.val.toUInt64))
  | .named width arms, _, offset =>
    let value := decoder.word width offset
    some (.enumeration value ((arms.lookup value).getD "Unknown"))
  | .flagged width predicates, _, offset =>
    let value := decoder.word width offset
    let names := predicates.foldl (fun names (mask, name) ↦
      if value &&& mask != 0 then Ordered.insert name () names else names) []
    some (.flags value (names.map Prod.fst))
  | .signature expected, _, offset =>
    some (.signature (decoder.bytesAt offset expected.length) expected)
  | .text encoding length, _, offset => some (.text (decoder.text encoding length offset))
  | .array _ limit count element size, counts, offset =>
    (count.eval counts).bind fun count ↦
      loop (element.eval decoder fun _ ↦ none) (size.eval decoder) limit count offset
  | .follow target, counts, offset => target.eval decoder counts (decoder.word .w64 offset)
  | .handle target, _, offset => some (.handle target offset (decoder.sizeOf target))

end DecodeExpression

namespace Kind

/-- A count from a field is only at hand in an accessor. -/
def countExpression (options : Options) : Site → Count → CountExpression
  | _, .fixed count => .literal (options.clamp count)
  | .accessor, .sibling field => .sibling field
  | .helper, .sibling _ => .literal 0

def decodeExpression (options : Options) (site : Site) : Kind → DecodeExpression
  | .integer type => .integer type
  | .bitField field => .bits field.width field.mask field.start
  | .enumeration choices => .named choices.width choices.arms
  | .flags names => .flagged names.width names.predicates
  | .signature expected => .signature expected
  | .text encoding length => .text encoding length
  | .array count element =>
    .array (element.arrayReader options) options.arrayLimit (countExpression options site count)
      (element.decodeExpression options .helper) (element.sizeExpression "value" "offset")
  | .pointer element => .follow (element.decodeExpression options site)
  | .reference target => .handle target

theorem countText_eq_text (options : Options) (site : Site) (count : Count) :
    countText options site count = (countExpression options site count).text := by
  cases site <;> cases count <;> rfl

/-- The code that decodes a kind is that expression. -/
theorem decodeCode_eq_code (options : Options) (site : Site) (kind : Kind) :
    kind.decodeCode options site = (kind.decodeExpression options site).code site := by
  induction kind with
  | array count element _ =>
    rw [decodeCode, countText_eq_text]
    rfl
  | pointer element ih =>
    rw [decodeCode, ih]
    rfl
  | _ => rfl

/-- The function of an array is the loop over the expressions of its element. -/
theorem arrayCode_eq_loopCode (options : Options) (element : Kind) :
    Helper.arrayCode options element =
      Helper.loopCode options.profile (element.arrayReader options) options.arrayLimit element.typeParts
        ((element.decodeExpression options .helper).code .helper)
        (element.sizeExpression "value" "offset").parts := by
  rw [Helper.arrayCode, decodeCode_eq_code, sizeParts_eq_parts]

end Kind

end BinaryLayout
