import BinaryLayout.Proofs.ArrayWalk
import BinaryLayout.Proofs.PageCoherence

/-!
# Values Depend on Their Span

A value without pointers depends on no byte behind those that its size counts. Terminated texts are the
reason why this needs proof: they are decoded and measured from a whole window of bytes, and only what
they find in it says how much of it counts. In an array the places of the elements depend on the bytes
of those before them, so the statement goes along the walk.
-/

namespace BinaryLayout

/-- The contents have the same bytes from `start` up to but not including `stop`. -/
def Agree (first second : Array UInt8) (start stop : Nat) : Prop :=
  ∀ index, start ≤ index → index < stop → first[index]? = second[index]?

namespace Agree

variable {first second : Array UInt8} {start stop : Nat}

theorem mono {start' stop' : Nat} (hagree : Agree first second start stop) (hstart : start ≤ start')
    (hstop : stop' ≤ stop) : Agree first second start' stop' :=
  fun index hlow hhigh ↦ hagree index (hstart.trans hlow) (hhigh.trans_le hstop)

/-- However much is read, the part that agrees is the same. -/
theorem take_slice {length : Nat} (hagree : Agree first second start (start + length)) (wanted : Nat) :
    (slice first start wanted).take length = (slice second start wanted).take length := by
  refine List.ext_getElem? fun index ↦ ?_
  simp only [slice_eq_take_drop, List.getElem?_take, List.getElem?_drop, Array.getElem?_toList]
  split
  · rw [hagree (start + index) (by omega) (by omega)]
  · rfl

theorem slice_eq {length : Nat} (hagree : Agree first second start (start + length)) :
    slice first start length = slice second start length := by
  have htake := hagree.take_slice length
  rwa [List.take_of_length_le (by simp [length_slice]),
    List.take_of_length_le (by simp [length_slice])] at htake

end Agree

namespace Kind

def hasPointer : Kind → Bool
  | .pointer _ => true
  | .array _ element => element.hasPointer
  | _ => false

end Kind

namespace Decoder

/-- What is found in front is found there in every list with the same front. -/
theorem findIdx_eq_of_take_eq {α : Type} {test : α → Bool} {first second : List α} {length : Nat}
    (hfound : first.findIdx test < length) (htake : first.take length = second.take length) :
    second.findIdx test = first.findIdx test := by
  have hboth := congrArg (List.findIdx test) htake
  rw [List.findIdx_take, List.findIdx_take] at hboth
  omega

theorem take_eq_of_le {α : Type} {first second : List α} {short long : Nat} (hle : short ≤ long)
    (htake : first.take long = second.take long) : first.take short = second.take short := by
  rw [← Nat.min_eq_left hle, ← List.take_take, htake, List.take_take]

theorem terminatedSize_bytes (bytes : List UInt8) : terminatedSize .bytes bytes =
    min (bytes.findIdx (fun byte ↦ !(byte != 0)) + 1) bytes.length := by
  rw [terminatedSize, List.takeWhile_eq_take_findIdx_not, List.length_take,
    Nat.min_eq_left List.findIdx_le_length]

theorem utf16End?_eq_of_take_eq {first second : List UInt8} {stop : Nat}
    (hfound : utf16End? first = some stop) (hlength : first.length = second.length)
    (htake : first.take (stop + 2) = second.take (stop + 2)) : utf16End? second = some stop := by
  unfold utf16End? at hfound ⊢
  obtain ⟨index, hindex, rfl⟩ := Option.map_eq_some_iff.mp hfound
  obtain ⟨hless, hfirst⟩ := List.findIdx?_eq_some_iff_findIdx_eq.mp hindex
  have hfront : first.take (index + 2) = second.take (index + 2) := take_eq_of_le (by omega) htake
  -- The pair that is found takes one byte more than its place says.
  have hpairs : (first.zip first.tail).take (index + 1) = (second.zip second.tail).take (index + 1) := by
    have htail (bytes : List UInt8) : bytes.tail.take (index + 1) = (bytes.take (index + 2)).tail := by
      rw [← List.drop_one, ← List.drop_one, List.drop_take]
      rfl
    rw [List.zip_eq_zipWith, List.zip_eq_zipWith, List.take_zipWith, List.take_zipWith, htail, htail,
      hfront, take_eq_of_le (Nat.le_succ _) hfront]
  have hsecond := (findIdx_eq_of_take_eq (hfirst.trans_lt (Nat.lt_succ_self index)) hpairs).trans hfirst
  have hpairsLength : (second.zip second.tail).length = (first.zip first.tail).length := by
    simp [hlength]
  rw [List.findIdx?_eq_some_iff_findIdx_eq.mpr ⟨hpairsLength ▸ hless, hsecond⟩]
  rfl

/-- A terminated text is determined by the bytes that it takes. -/
theorem terminated_eq_of_take_eq {encoding : Encoding} {first second : List UInt8}
    (hlength : first.length = second.length)
    (htake : first.take (terminatedSize encoding first) =
      second.take (terminatedSize encoding first)) :
    beforeTerminator encoding second = beforeTerminator encoding first ∧
      terminatedSize encoding second = terminatedSize encoding first := by
  by_cases hwhole : first.length ≤ terminatedSize encoding first
  · -- Without a terminator the text takes all bytes that were read.
    obtain rfl : first = second := by
      rwa [List.take_of_length_le hwhole, List.take_of_length_le (hlength ▸ hwhole)] at htake
    exact ⟨rfl, rfl⟩
  · cases encoding with
    | bytes =>
      rw [terminatedSize_bytes] at hwhole htake
      have hsize : min (first.findIdx (fun byte ↦ !(byte != 0)) + 1) first.length =
          first.findIdx (fun byte ↦ !(byte != 0)) + 1 := by omega
      rw [hsize] at htake
      have hfound := findIdx_eq_of_take_eq (Nat.lt_succ_self _) htake
      rw [terminatedSize_bytes, terminatedSize_bytes, hfound, hlength, beforeTerminator,
        beforeTerminator, List.takeWhile_eq_take_findIdx_not, List.takeWhile_eq_take_findIdx_not, hfound]
      exact ⟨(take_eq_of_le (Nat.le_succ _) htake).symm, rfl⟩
    | utf16 =>
      unfold terminatedSize at hwhole htake ⊢
      cases hend : utf16End? first with
      | none => simp [hend] at hwhole
      | some stop =>
        simp only [hend] at hwhole htake
        have hsize : min (stop + 2) first.length = stop + 2 := by omega
        rw [hsize] at htake
        have hsecond := utf16End?_eq_of_take_eq hend hlength htake
        simp only [hsecond, beforeTerminator, hend, Option.getD_some, hlength, and_true]
        exact (take_eq_of_le (by omega) htake).symm

/-! ## Sizes without wrapping around -/

/-- The bytes that the value of a kind takes, counted beyond 64 bits. -/
def extent (decoder : Decoder) : Kind → UInt64 → Nat
  | .integer type, _ => type.width.bytes
  | .bitField field, _ => field.width.bytes
  | .enumeration choices, _ => choices.width.bytes
  | .flags names, _ => names.width.bytes
  | .signature expected, _ => expected.length
  | .text _ (some length), _ => length.toNat
  | .text encoding none, offset => terminatedSize encoding (decoder.bytesAt offset decoder.window)
  | .array (.fixed count) element, offset =>
    ∑ index ∈ Finset.range (decoder.clamp count),
      decoder.extent element (decoder.elementStart element offset index)
  | .array (.sibling _) _, _ => 0
  | .pointer _, _ => 8
  | .reference target, _ => (decoder.sizeOf target).toNat

/-- The walk over a value does not go past the last offset, and its length is a size. -/
structure Unwrapped (decoder : Decoder) (kind : Kind) (offset : UInt64) : Prop where
  size : decoder.extent kind offset < UInt64.size
  stop : offset.toNat + decoder.extent kind offset ≤ UInt64.size

theorem elementStart_eq_add {decoder : Decoder} {element : Kind}
    (helement : ∀ offset, decoder.span element offset = UInt64.ofNat (decoder.extent element offset))
    (offset : UInt64) (index : Nat) : decoder.elementStart element offset index =
      offset + UInt64.ofNat (∑ before ∈ Finset.range index,
        decoder.extent element (decoder.elementStart element offset before)) := by
  induction index with
  | zero => simp [elementStart]
  | succ index ih =>
    rw [Finset.sum_range_succ, UInt64.ofNat_add, ← add_assoc, ← ih, ← helement, elementStart]

/-- A size is the low 64 bits of the bytes that are taken. -/
theorem span_eq_extent (decoder : Decoder) (kind : Kind) : ∀ offset : UInt64,
    decoder.span kind offset = UInt64.ofNat (decoder.extent kind offset) := by
  induction kind with
  | text encoding length =>
    intro offset
    cases length with
    | none => rfl
    | some length => exact UInt64.ofNat_toNat.symm
  | array count element ih =>
    intro offset
    cases count with
    | fixed count => rw [span_array, elementStart_eq_add ih, extent, add_sub_cancel_left]
    | sibling field => exact sub_self offset
  | reference target => exact fun offset ↦ UInt64.ofNat_toNat.symm
  | _ => exact fun _ ↦ rfl

theorem Unwrapped.toNat_span {decoder : Decoder} {kind : Kind} {offset : UInt64}
    (hwalk : decoder.Unwrapped kind offset) :
    (decoder.span kind offset).toNat = decoder.extent kind offset := by
  rw [span_eq_extent]
  exact UInt64.toNat_ofNat_of_lt hwalk.size

def reading (decoder : Decoder) (bytes : Array UInt8) : Decoder :=
  { decoder with source := .ofArray bytes }

section

variable {decoder : Decoder} {first second : Array UInt8}

theorem bytesAt_eq (length : Nat) {offset : UInt64}
    (hagree : Agree first second offset.toNat (offset.toNat + length)) :
    (decoder.reading second).bytesAt offset length = (decoder.reading first).bytesAt offset length :=
  hagree.slice_eq.symm

/-- The value of the kind and its size depend only on the bytes that are counted. -/
def Local (decoder : Decoder) (first second : Array UInt8) (kind : Kind) : Prop :=
  ∀ offset : UInt64, (decoder.reading first).Unwrapped kind offset →
    Agree first second offset.toNat (offset.toNat + (decoder.reading first).extent kind offset) →
    (decoder.reading second).value kind offset = (decoder.reading first).value kind offset ∧
      (decoder.reading second).span kind offset = (decoder.reading first).span kind offset

theorem local_integer (type : IntegerType) : decoder.Local first second (.integer type) := by
  intro offset _ hagree
  refine ⟨?_, rfl⟩
  simp only [value, integer, raw, bytesAt_eq type.width.bytes hagree]

theorem word_eq {width : Width} {offset : UInt64}
    (hagree : Agree first second offset.toNat (offset.toNat + width.bytes)) :
    (decoder.reading second).word width offset = (decoder.reading first).word width offset := by
  simp only [word, raw, bytesAt_eq width.bytes hagree]

theorem local_text (hsize : first.size = second.size) (encoding : Encoding) (length : Option UInt64) :
    decoder.Local first second (.text encoding length) := by
  intro offset _ hagree
  cases length with
  | some length =>
    refine ⟨?_, rfl⟩
    simp only [value, text, bytesAt_eq length.toNat hagree]
  | none =>
    have hlength : ((decoder.reading first).bytesAt offset decoder.window).length =
        ((decoder.reading second).bytesAt offset decoder.window).length := by
      change (slice first _ _).length = (slice second _ _).length
      rw [length_slice, length_slice, hsize]
    obtain ⟨htext, hmeasure⟩ := terminated_eq_of_take_eq hlength (hagree.take_slice decoder.window)
    constructor
    · exact congrArg (fun bytes ↦ Value.text (textOf encoding bytes)) htext
    · exact congrArg UInt64.ofNat hmeasure

/-- An element of an unwrapped walk is unwrapped itself, and lies within the bytes of the whole. -/
theorem Unwrapped.element {count : Int} {element : Kind} {offset : UInt64}
    (hwalk : decoder.Unwrapped (.array (.fixed count) element) offset) {index : Nat}
    (hindex : index < decoder.clamp count)
    (hagree : Agree first second offset.toNat
      (offset.toNat + decoder.extent (.array (.fixed count) element) offset)) :
    decoder.Unwrapped element (decoder.elementStart element offset index) ∧
      Agree first second (decoder.elementStart element offset index).toNat
        ((decoder.elementStart element offset index).toNat +
          decoder.extent element (decoder.elementStart element offset index)) := by
  obtain ⟨hsize, hstop⟩ := hwalk
  have hstart := congrArg UInt64.toNat
    (elementStart_eq_add (decoder.span_eq_extent element) offset index)
  have hpart : ∑ before ∈ Finset.range (index + 1),
      decoder.extent element (decoder.elementStart element offset before) ≤
        decoder.extent (.array (.fixed count) element) offset :=
    Finset.sum_le_sum_of_subset (Finset.range_subset_range.mpr hindex)
  rw [Finset.sum_range_succ] at hpart
  generalize decoder.elementStart element offset index = start at *
  generalize ∑ before ∈ Finset.range index,
    decoder.extent element (decoder.elementStart element offset before) = walked at *
  rw [UInt64.toNat_add, UInt64.toNat_ofNat', Nat.add_mod_mod] at hstart
  have hcardinality : UInt64.size = 2 ^ 64 := rfl
  -- Past the last offset there are only elements without bytes, and they count as starting at zero.
  by_cases hlast : offset.toNat + walked = UInt64.size
  · have hzero : start.toNat = 0 := by rw [hstart, hlast, hcardinality, Nat.mod_self]
    have hempty : decoder.extent element start = 0 := by omega
    refine ⟨⟨by omega, by omega⟩, fun index hlow hhigh ↦ ?_⟩
    omega
  · have hplace : start.toNat = offset.toNat + walked := by
      rw [hstart, Nat.mod_eq_of_lt (by omega)]
    exact ⟨⟨by omega, by omega⟩, hagree.mono (by omega) (by omega)⟩

/-- The elements are found at the same places. -/
theorem local_array {element : Kind} (helement : decoder.Local first second element) (count : Int) :
    decoder.Local first second (.array (.fixed count) element) := by
  intro offset hwalk hagree
  have hsame {index : Nat} (hindex : index < decoder.clamp count) :=
    helement _ (hwalk.element hindex hagree).1 (hwalk.element hindex hagree).2
  have hstart : ∀ index ≤ decoder.clamp count,
      (decoder.reading second).elementStart element offset index =
        (decoder.reading first).elementStart element offset index := by
    intro index hindex
    induction index with
    | zero => rfl
    | succ index ih => rw [elementStart, elementStart, ih (Nat.le_of_succ_le hindex), (hsame hindex).2]
  have hclamp (bytes : Array UInt8) : (decoder.reading bytes).clamp count = decoder.clamp count := rfl
  constructor
  · change (decoder.reading second).array element count offset =
      (decoder.reading first).array element count offset
    rw [array_eq_run, array_eq_run, run, run, hclamp, hclamp]
    refine congrArg Value.array (List.map_congr_left fun index hindex ↦ ?_)
    have hless := List.mem_range.mp hindex
    rw [hstart index hless.le, (hsame hless).1]
  · rw [span_array, span_array, hclamp, hclamp, hstart _ le_rfl]

/-- Every kind without pointers is local. -/
theorem local_of_hasPointer (hsize : first.size = second.size) {kind : Kind}
    (hkind : kind.hasPointer = false) : decoder.Local first second kind := by
  induction kind with
  | integer type => exact local_integer type
  | bitField field =>
    intro offset _ hagree
    exact ⟨by simp only [value, bitField, word_eq hagree], rfl⟩
  | enumeration choices =>
    intro offset _ hagree
    exact ⟨by simp only [value, word_eq hagree], rfl⟩
  | flags names =>
    intro offset _ hagree
    exact ⟨by simp only [value, word_eq hagree], rfl⟩
  | signature expected =>
    intro offset _ hagree
    exact ⟨by simp only [value, bytesAt_eq expected.length hagree], rfl⟩
  | text encoding length => exact local_text hsize encoding length
  | array count element ih =>
    cases count with
    | fixed count => exact local_array (ih hkind) count
    | sibling field => exact fun _ _ _ ↦ ⟨rfl, rfl⟩
  | pointer element => cases hkind
  | reference target => exact fun _ _ _ ↦ ⟨rfl, rfl⟩

end

/-- What the expression for the size of a kind evaluates to at an offset, for the value there. -/
def reportedSize (decoder : Decoder) (kind : Kind) (offset : UInt64) : Option UInt64 :=
  (kind.sizeExpression "value" "offset").eval decoder
    ⟨[("value", decoder.value kind offset)], [("offset", offset)]⟩

theorem reportedSize_eq_span (decoder : Decoder) (kind : Kind) (offset : UInt64) :
    decoder.reportedSize kind offset = some (decoder.span kind offset) :=
  decoder.eval_sizeExpression kind (decoder.admits_value kind offset) rfl rfl

/-- Two sources of one length that agree on the bytes that the size of a value counts both give that
value and that size. -/
theorem value_eq_of_agree (decoder : Decoder) {first second : Array UInt8}
    (hlength : first.size = second.size) {kind : Kind} (hkind : kind.hasPointer = false)
    {offset size : UInt64} (hwalk : (decoder.reading first).Unwrapped kind offset)
    (hsize : (decoder.reading first).reportedSize kind offset = some size)
    (hagree : Agree first second offset.toNat (offset.toNat + size.toNat)) :
    (decoder.reading second).value kind offset = (decoder.reading first).value kind offset ∧
      (decoder.reading second).reportedSize kind offset = some size := by
  rw [reportedSize_eq_span, Option.some_inj] at hsize ⊢
  subst hsize
  rw [hwalk.toNat_span] at hagree
  exact local_of_hasPointer hlength hkind offset hwalk hagree

def twoTexts (rest : List UInt8) : Array UInt8 :=
  ([0x41, 0, 0, 0, 0x42, 0, 0, 0] ++ rest).toArray

/-- Each text is decoded from a window of eight bytes, of which it counts four. -/
theorem value_eq_of_agree_twoTexts :
    let decoder : Decoder := ⟨.ofArray #[], 5, 8, fun _ ↦ 0⟩
    let kind : Kind := .array (.fixed 2) (.text .utf16 none)
    (decoder.reading (twoTexts [1, 2])).Unwrapped kind 0 ∧
      (decoder.reading (twoTexts [0, 0])).value kind 0 =
        (decoder.reading (twoTexts [1, 2])).value kind 0 ∧
      (decoder.reading (twoTexts [0, 0])).reportedSize kind 0 = some 8 := by
  intro decoder kind
  have hwalk : (decoder.reading (twoTexts [1, 2])).Unwrapped kind 0 :=
    ⟨by decide +kernel, by decide +kernel⟩
  have hlength : (twoTexts [1, 2]).size = (twoTexts [0, 0]).size := rfl
  have hkind : kind.hasPointer = false := rfl
  have hsize : (decoder.reading (twoTexts [1, 2])).reportedSize kind 0 = some 8 := by decide +kernel
  have hbytes : ∀ index < 8, (twoTexts [1, 2])[index]? = (twoTexts [0, 0])[index]? := by decide
  exact ⟨hwalk, value_eq_of_agree decoder hlength hkind hwalk hsize
    fun index _ hless ↦ hbytes index hless⟩

end Decoder

end BinaryLayout
