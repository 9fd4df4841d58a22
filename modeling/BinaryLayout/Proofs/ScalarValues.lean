import BinaryLayout.Proofs.TerminatedText
import BinaryLayout.Proofs.ValueNames

/-!
# Values of a Fixed Size

Integers are the inverse of writing a number in two's complement with the least significant byte first.
Bits are a quotient of a remainder: the mask takes the number modulo a power of two, and the shift
divides by another. That neither overflows is because of the range to which the bits are held when an
entry is read. A signature is compared with as many bytes as there are.
-/

namespace BinaryLayout

/-- At the offset the source has these bytes, and reads give as many of them as are asked for and there.
They are none where reads fail. -/
def Source.Offers (source : Source) (offset : UInt64) (rest : List UInt8) : Prop :=
  ∀ length : Nat, (source.read offset length).available = rest.take length

theorem Source.Serves.offers {source : Source} {content : List UInt8} (hserves : source.Serves content)
    (offset : UInt64) : source.Offers offset (content.drop offset.toNat) :=
  hserves offset

/-- The bytes of a number in two's complement, the least significant first. -/
def twosComplement : Nat → Int → List UInt8
  | 0, _ => []
  | count + 1, number => UInt8.ofInt number :: twosComplement count (number / 256)

@[simp]
theorem length_twosComplement (count : Nat) (number : Int) :
    (twosComplement count number).length = count := by
  induction count generalizing number with
  | zero => rfl
  | succ count ih => rw [twosComplement, List.length_cons, ih]

/-- The remainder by a product, from that by its first factor and that of the quotient. -/
theorem emod_mul_eq (number : Int) {base : Int} (hbase : 0 < base) {rest : Int} (hrest : 0 < rest) :
    number % (base * rest) = number % base + base * (number / base % rest) := by
  have hlow := Int.emod_nonneg number hbase.ne'
  have hhigh := Int.emod_lt_of_pos number hbase
  have hlow' := Int.emod_nonneg (number / base) hrest.ne'
  have hhigh' := Int.emod_lt_of_pos (number / base) hrest
  have hfirst := Int.emod_add_mul_ediv number base
  have hsecond := Int.emod_add_mul_ediv (number / base) rest
  have hsplit : number = number % base + base * (number / base % rest) +
      base * rest * (number / base / rest) := by
    linear_combination -hfirst - base * hsecond
  have hless : number % base + base * (number / base % rest) < base * rest := by
    nlinarith
  conv_lhs => rw [hsplit, Int.add_mul_emod_self_left]
  exact Int.emod_eq_of_lt (by positivity) hless

/-- The bytes of a number are those of its remainder. -/
theorem littleEndian_twosComplement (count : Nat) (number : Int) :
    (Decoder.littleEndian (twosComplement count number) : Int) = number % 256 ^ count := by
  induction count generalizing number with
  | zero => simp [twosComplement, Decoder.littleEndian]
  | succ count ih =>
    have hbyte : ((UInt8.ofInt number).toNat : Int) = number % 256 := by
      simp [UInt8.ofInt]
      omega
    rw [twosComplement, Decoder.littleEndian, pow_succ', emod_mul_eq number (by decide) (by positivity),
      ← ih, ← hbyte]
    rfl

namespace IntegerType

def least (type : IntegerType) : Int :=
  if type.signed then -2 ^ (type.width.bits - 1) else 0

def bound (type : IntegerType) : Int :=
  if type.signed then 2 ^ (type.width.bits - 1) else 2 ^ type.width.bits

def Holds (type : IntegerType) (number : Int) : Prop :=
  type.least ≤ number ∧ number < type.bound

instance (type : IntegerType) (number : Int) : Decidable (type.Holds number) :=
  inferInstanceAs (Decidable (_ ∧ _))

/-- A value of the type is what its remainder stands for. -/
theorem interpret_of_emod {type : IntegerType} {number : Int} {raw : Nat} (hnumber : type.Holds number)
    (hraw : (raw : Int) = number % 2 ^ type.width.bits) : type.interpret raw = number := by
  obtain ⟨hleast, hbound⟩ := hnumber
  obtain ⟨width, signed⟩ := type
  unfold least at hleast
  unfold bound at hbound
  unfold interpret
  cases width <;> cases signed <;>
    simp [Width.cardinality_eq, Width.bits, Width.bytes] at hleast hbound hraw ⊢ <;> omega

@[simp]
theorem interpret_zero (type : IntegerType) : type.interpret 0 = 0 := by
  obtain ⟨width, signed⟩ := type
  cases width <;> cases signed <;> rfl

end IntegerType

theorem BitField.toNat_mask (field : BitField) : field.mask.toNat = 2 ^ field.stop.val - 1 := by
  have hstop : 2 ^ field.stop.val ≤ 2 ^ 64 :=
    Nat.pow_le_pow_right (by decide) (Nat.lt_succ_iff.mp field.stop.isLt)
  apply UInt64.toNat_ofNat_of_lt'
  change 2 ^ field.stop.val - 1 < 2 ^ 64
  omega

/-- The expression for bits, with the numbers in it. -/
theorem render_bitField (options : Options) (site : Site) (field : BitField) :
    ((Kind.bitField field).decodeCode options site).render =
      "((" ++ (IntegerType.unsigned field.width).reader ++ "(" ++ site.reader ++ ", offset) as u64) & " ++
        hex (2 ^ field.stop.val - 1) ++ ") >> " ++ toString field.start.val := by
  have hwords (rest : String) : ", offset)" ++ (" as u64) & " ++ rest) = ", offset) as u64) & " ++ rest :=
    String.append_assoc.symm
  rw [← field.toNat_mask]
  simp [Kind.decodeCode, Kind.bitsParts, Kind.backingParts, Kind.callParts, Code.line, Code.render,
    Code.Line.render, Code.Part.render, Code.spaces, hwords, String.append_assoc]

/-- An entry for bits is accepted exactly if there are such bits. -/
theorem Context.resolve_bitField {entry : Json} {position : UInt64} {given : Option Json}
    {range : Parameters.BitRange} (hparts : Entry.parts entry = .ok (position, "BitField", given))
    (hrange : Description.parameters "BitField" Parameters.bitRange given = .ok range) (spec : Spec)
    (context : Context) (kind : Kind) :
    (∃ found after, context.resolve spec entry = (.ok found, after) ∧ found.field.kind = kind) ↔
      ∃ field : BitField, kind = .bitField field ∧ field.start.val = range.start ∧
        field.stop.val = range.stop ∧ field.width = range.width := by
  have hname : Description.ofName "BitField" given = Description.ofBitRange range := by
    change Description.simple "BitField" given = _
    change Description.parameters "BitField" Parameters.bitRange given >>= _ = _
    rw [hrange]
    rfl
  have hentry : Entry.ofJson entry = (Description.ofBitRange range).map (Entry.mk position) := by
    rw [Entry.ofJson_eq, hparts]
    change (Description.ofName "BitField" given >>= fun found ↦ pure (Entry.mk position found)) = _
    rw [hname]
    cases Description.ofBitRange range <;> rfl
  have haccepted := Description.ofBitRange_eq_ok_iff range
  rw [resolve_eq, hentry]
  constructor
  · rintro ⟨found, after, hfound, rfl⟩
    cases hdescription : Description.ofBitRange range with
    | error error =>
      rw [hdescription] at hfound
      cases hfound
    | ok description =>
      obtain ⟨field, rfl, hbits⟩ := (haccepted description).mp hdescription
      rw [hdescription] at hfound
      obtain rfl := Except.ok.inj (Prod.mk.inj hfound).1
      exact ⟨field, rfl, hbits⟩
  · rintro ⟨field, rfl, hbits⟩
    rw [(haccepted _).mpr ⟨field, rfl, hbits⟩]
    exact ⟨_, _, rfl, rfl⟩

namespace Decoder

theorem toNat_bitField (decoder : Decoder) (field : BitField) (offset : UInt64) :
    (decoder.bitField field offset).toNat =
      decoder.raw field.width offset % 2 ^ field.stop.val / 2 ^ field.start.val := by
  have hshift : (field.start.val.toUInt64).toNat % 64 = field.start.val := by
    simp
  rw [bitField, UInt64.toNat_shiftRight, hshift, UInt64.toNat_and, field.toNat_mask, toNat_word,
    Nat.and_two_pow_sub_one_eq_mod, Nat.shiftRight_eq_div_pow]

section

variable {decoder : Decoder} {offset : UInt64} {rest : List UInt8}
  (hoffers : decoder.source.Offers offset rest)

include hoffers

theorem bytesAt_eq_take (length : Nat) : decoder.bytesAt offset length = rest.take length :=
  hoffers length

theorem integer_of_prefix {type : IntegerType} {number : Int} (hnumber : type.Holds number)
    (hbytes : twosComplement type.width.bytes number <+: rest) : decoder.integer type offset = number := by
  have hread : decoder.bytesAt offset type.width.bytes = twosComplement type.width.bytes number := by
    rw [bytesAt_eq_take hoffers, List.prefix_iff_eq_take.mp hbytes, length_twosComplement]
  have hpower : (256 : Int) ^ type.width.bytes = 2 ^ type.width.bits := by
    rw [Width.bits, pow_mul]
    norm_num
  apply IntegerType.interpret_of_emod hnumber
  rw [raw, hread, if_pos (length_twosComplement _ _), littleEndian_twosComplement, hpower]

theorem raw_of_length_lt {width : Width} (hshort : rest.length < width.bytes) :
    decoder.raw width offset = 0 := by
  rw [raw, bytesAt_eq_take hoffers, if_neg]
  rw [List.length_take]
  omega

/-- A signature is valid if the expected bytes are there. -/
theorem isValid_bytesAt_iff (expected : List UInt8) :
    Value.isValid (decoder.bytesAt offset expected.length) expected = true ↔ expected <+: rest := by
  rw [Value.isValid, beq_iff_eq, bytesAt_eq_take hoffers, List.prefix_iff_eq_take, eq_comm]

end

/-- What integers, bits and signatures are, by the bytes that a source has at an offset. An integer whose
bytes are there is decoded, and with fewer bytes zero is. Bits are a quotient of a remainder of the
integer that they are taken from, and the mask and the shift that are written fit 64 bits; entries for
bits are accepted exactly if they are of this kind. A signature holds all bytes that are there up to its
length, and is valid if these are as expected. -/
theorem scalar_values {decoder : Decoder} {offset : UInt64} {rest : List UInt8}
    (hoffers : decoder.source.Offers offset rest) :
    (∀ type : IntegerType,
      (∀ number, type.Holds number → twosComplement type.width.bytes number <+: rest →
        decoder.value (.integer type) offset = .integer type number) ∧
      (rest.length < type.width.bytes → decoder.value (.integer type) offset = .integer type 0)) ∧
    (∀ field : BitField,
      (∃ (raw : Nat) (word : UInt64), decoder.value (.integer (.unsigned field.width)) offset =
          .integer (.unsigned field.width) raw ∧
        decoder.value (.bitField field) offset = .bits word ∧
        word.toNat = raw % 2 ^ field.stop.val / 2 ^ field.start.val) ∧
      (∀ options site, ((Kind.bitField field).decodeCode options site).render =
        "((" ++ (IntegerType.unsigned field.width).reader ++ "(" ++ site.reader ++
          ", offset) as u64) & " ++ hex (2 ^ field.stop.val - 1) ++ ") >> " ++
          toString field.start.val) ∧
      2 ^ field.stop.val - 1 < 2 ^ 64 ∧ field.start.val < 64) ∧
    (∀ (context : Context) (spec : Spec) (entry : Json) (position : UInt64) (given : Option Json)
        (range : Parameters.BitRange), Entry.parts entry = .ok (position, "BitField", given) →
      Description.parameters "BitField" Parameters.bitRange given = .ok range →
      ((∃ found after, context.resolve spec entry = (.ok found, after)) ↔
        range.start < 64 ∧ range.stop ≤ 64) ∧
      ∀ found after, context.resolve spec entry = (.ok found, after) →
        ∃ field : BitField, found.field.kind = .bitField field ∧ field.start.val = range.start ∧
          field.stop.val = range.stop ∧ field.width = range.width) ∧
    ∀ expected : List UInt8, ∃ bytes,
      decoder.value (.signature expected) offset = .signature bytes expected ∧
      bytes <+: rest ∧ bytes.length ≤ expected.length ∧
      (∀ other, other <+: rest → other.length ≤ expected.length → other <+: bytes) ∧
      (Value.isValid bytes expected = true ↔ expected <+: rest) := by
  refine ⟨?_, ?_, ?_, ?_⟩
  · intro type
    refine ⟨?_, ?_⟩
    · intro number hnumber hbytes
      rw [value, integer_of_prefix hoffers hnumber hbytes]
    · intro hshort
      rw [value, integer, raw_of_length_lt hoffers hshort, IntegerType.interpret_zero]
  · intro field
    refine ⟨⟨decoder.raw field.width offset, decoder.bitField field offset, ?_, rfl,
      decoder.toNat_bitField field offset⟩, ?_, ?_, field.start.isLt⟩
    · rfl
    · intro options site
      exact render_bitField options site field
    · rw [← field.toNat_mask]
      exact field.mask.toNat_lt
  · intro context spec entry position given range hparts hrange
    have hresolve := Context.resolve_bitField hparts hrange spec context
    refine ⟨⟨?_, ?_⟩, ?_⟩
    · rintro ⟨found, after, hfound⟩
      obtain ⟨field, -, hstart, hstop, -⟩ := (hresolve _).mp ⟨found, after, hfound, rfl⟩
      exact ⟨hstart ▸ field.start.isLt, hstop ▸ Nat.lt_succ_iff.mp field.stop.isLt⟩
    · rintro ⟨hstart, hstop⟩
      obtain ⟨found, after, hfound, -⟩ := (hresolve _).mpr
        ⟨⟨⟨range.start, hstart⟩, ⟨range.stop, Nat.lt_succ_iff.mpr hstop⟩, range.width⟩, rfl, rfl, rfl, rfl⟩
      exact ⟨found, after, hfound⟩
    · intro found after hfound
      exact (hresolve _).mp ⟨found, after, hfound, rfl⟩
  · intro expected
    have hbytes := bytesAt_eq_take hoffers expected.length
    refine ⟨_, rfl, ?_, ?_, ?_, isValid_bytesAt_iff hoffers expected⟩
    · rw [hbytes]
      exact List.take_prefix _ _
    · rw [hbytes]
      exact List.length_take_le _ _
    · intro other hother hlength
      rw [hbytes]
      exact List.prefix_take_iff.mpr ⟨hother, hlength⟩

/-- The number -2 in two bytes, of which bits past the end are taken, with too few bytes for four and a
signature that is cut. -/
theorem scalar_values_negative :
    let content : List UInt8 := [7, 0xFE, 0xFF, 0xFF]
    let decoder : Decoder := ⟨.ofArray content.toArray, 0, 0, fun _ ↦ 0⟩
    let range : Json := .object [("start_bit", .number (.natural 12)), ("end_bit", .number (.natural 64)),
      ("target", .string "unsigned short")]
    let entry : Json := .array [.number (.natural 0), .array [.string "BitField", range]]
    decoder.source.Offers 1 [0xFE, 0xFF, 0xFF] ∧
      decoder.value (.integer ⟨.w16, true⟩) 1 = .integer ⟨.w16, true⟩ (-2) ∧
      decoder.value (.integer ⟨.w32, true⟩) 1 = .integer ⟨.w32, true⟩ 0 ∧
      (∃ found after, Context.resolve {} entry { options := {} } = (.ok found, after)) ∧
      (∃ word, decoder.value (.bitField ⟨12, 64, .w16⟩) 1 = .bits word ∧ word.toNat = 15) ∧
      ∃ bytes, decoder.value (.signature [0xFE, 0xFF, 0xFF, 0]) 1 =
        .signature bytes [0xFE, 0xFF, 0xFF, 0] ∧ Value.isValid bytes [0xFE, 0xFF, 0xFF, 0] = false := by
  intro content decoder range entry
  have hoffers : decoder.source.Offers 1 [0xFE, 0xFF, 0xFF] := (Source.serves_ofArray content).offers 1
  obtain ⟨hintegers, hfields, hentries, hsignatures⟩ := scalar_values hoffers
  have hsigned := (hintegers ⟨.w16, true⟩).1 (-2) (by decide) (by decide)
  have hunsigned := (hintegers (.unsigned .w16)).1 0xFFFE (by decide) (by decide)
  have hshort := (hintegers ⟨.w32, true⟩).2 (by decide)
  obtain ⟨⟨raw, word, hraw, hword, hbits⟩, -⟩ := hfields ⟨12, 64, .w16⟩
  obtain ⟨haccepted, -⟩ := hentries { options := {} } {} entry 0 (some range) ⟨12, 64, .w16⟩ rfl rfl
  obtain ⟨bytes, hbytes, -, -, -, hvalid⟩ := hsignatures [0xFE, 0xFF, 0xFF, 0]
  obtain rfl : raw = 0xFFFE := Int.ofNat.inj (Value.integer.inj (hraw.symm.trans hunsigned)).2
  refine ⟨hoffers, hsigned, hshort, haccepted.mpr (by decide), ⟨word, hword, hbits⟩, bytes, hbytes, ?_⟩
  rw [← Bool.not_eq_true, hvalid]
  decide

end Decoder

end BinaryLayout
