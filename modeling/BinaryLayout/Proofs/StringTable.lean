import BinaryLayout.Proofs.TerminatedText

/-!
# Tables of Strings

Byte strings that lie one behind the other, each with a zero behind it, are read back by an array of
terminated texts. The next string is found by the bytes of the one before it, not by its characters:
bytes that are no UTF-8 give fewer or longer characters, and the strings behind them are still found.
-/

namespace BinaryLayout

def packed (strings : List (List UInt8)) : List UInt8 :=
  strings.flatMap (· ++ [0])

@[simp]
theorem packed_cons (string : List UInt8) (rest : List (List UInt8)) :
    packed (string :: rest) = string ++ 0 :: packed rest := by
  simp [packed]

theorem length_packed (strings : List (List UInt8)) :
    (packed strings).length = (strings.map fun string ↦ string.length + 1).sum := by
  simp [packed, List.length_flatMap]

namespace Decoder

theorem takeWhile_zero {string : List UInt8} (hzero : 0 ∉ string) (rest : List UInt8) :
    (string ++ 0 :: rest).takeWhile (· != 0) = string := by
  rw [List.takeWhile_append_of_pos]
  · simp
  · intro byte hbyte
    simpa using fun hsame : byte = 0 ↦ hzero (hsame ▸ hbyte)

section

variable {decoder : Decoder} {content : List UInt8} (hserves : decoder.source.Serves content)
  {string rest : List UInt8} (hzero : 0 ∉ string) (hshort : string.length < decoder.window)
  {position : UInt64} (hposition : content.drop position.toNat = string ++ 0 :: rest)

include hserves hshort hposition in
/-- The window reaches the zero behind the string. -/
theorem bytesAt_of_drop : decoder.bytesAt position decoder.window =
    string ++ 0 :: rest.take (decoder.window - string.length - 1) := by
  obtain ⟨more, hmore⟩ : ∃ more, decoder.window - string.length = more + 1 :=
    Nat.exists_eq_add_one_of_ne_zero (by omega)
  rw [bytesAt_eq_take_drop hserves, hposition, List.take_append, List.take_of_length_le hshort.le,
    hmore,
    List.take_succ_cons, Nat.add_sub_cancel]

include hserves hzero hshort hposition

theorem value_text_of_drop :
    decoder.value (.text .bytes none) position = .text (Text.Utf8.decode string) := by
  simp only [value, text, textOf, beforeTerminator, bytesAt_of_drop hserves hshort hposition,
    takeWhile_zero hzero]

theorem toNat_span_of_drop (hcontent : content.length < UInt64.size) :
    (decoder.span (.text .bytes none) position).toNat = string.length + 1 := by
  rw [toNat_span_text hserves hcontent, bytesAt_of_drop hserves hshort hposition, terminatedSize,
    takeWhile_zero hzero, List.length_append, List.length_cons]
  omega

/-- The next string starts behind the zero. -/
theorem toNat_add_span_of_drop (hcontent : content.length < UInt64.size) :
    (position + decoder.span (.text .bytes none) position).toNat =
      position.toNat + (string.length + 1) := by
  have hsize := toNat_span_of_drop hserves hzero hshort hposition hcontent
  have hlength := congrArg List.length hposition
  rw [List.length_drop, List.length_append, List.length_cons] at hlength
  rw [UInt64.toNat_add, hsize]
  apply Nat.mod_eq_of_lt
  change _ < UInt64.size
  omega

end

/-- From where the packed strings start, the walk finds each of them and stops behind the last. -/
theorem run_packed {decoder : Decoder} {content : List UInt8} (hserves : decoder.source.Serves content)
    (hcontent : content.length < UInt64.size) (back : List UInt8) :
    ∀ {strings : List (List UInt8)} {position : UInt64}, (∀ string ∈ strings, 0 ∉ string) →
      (∀ string ∈ strings, string.length < decoder.window) →
      content.drop position.toNat = packed strings ++ back →
      decoder.run (.text .bytes none) position strings.length =
          strings.map (fun string ↦ .text (Text.Utf8.decode string)) ∧
        (decoder.elementStart (.text .bytes none) position strings.length).toNat =
          position.toNat + (packed strings).length := by
  intro strings
  induction strings with
  | nil => exact fun _ _ _ ↦ ⟨rfl, rfl⟩
  | cons string rest ih =>
    intro position hzero hshort hposition
    obtain ⟨hzero, hzeros⟩ := List.forall_mem_cons.mp hzero
    obtain ⟨hshort, hshorts⟩ := List.forall_mem_cons.mp hshort
    rw [packed_cons, List.append_assoc, List.cons_append] at hposition
    have hnext := toNat_add_span_of_drop hserves hzero hshort hposition hcontent
    have hdrop : content.drop (position + decoder.span (.text .bytes none) position).toNat =
        packed rest ++ back := by
      rw [hnext, ← List.drop_drop, hposition, List.drop_append]
      simp
    obtain ⟨hrun, hstop⟩ := ih hzeros hshorts hdrop
    constructor
    · rw [List.length_cons, run_succ, hrun, value_text_of_drop hserves hzero hshort hposition,
        List.map_cons]
    · calc
        _ = (decoder.elementStart (.text .bytes none)
              (position + decoder.span (.text .bytes none) position) rest.length).toNat := by
          rw [List.length_cons, Nat.add_comm, elementStart_add]
          rfl
        _ = position.toNat + (string.length + 1) + (packed rest).length := by rw [hstop, hnext]
        _ = position.toNat + (packed (string :: rest)).length := by
          rw [packed_cons, List.length_append, List.length_cons]
          omega

/-- An array of terminated texts over packed strings gives the strings in order, and takes the bytes of
all of them with their zeros. -/
theorem array_packed {decoder : Decoder} {front back : List UInt8} {strings : List (List UInt8)}
    (hserves : decoder.source.Serves (front ++ packed strings ++ back))
    (hcontent : (front ++ packed strings ++ back).length < UInt64.size)
    (hzero : ∀ string ∈ strings, 0 ∉ string)
    (hshort : ∀ string ∈ strings, string.length < decoder.window)
    (hlimit : strings.length ≤ decoder.arrayLimit) :
    decoder.array (.text .bytes none) strings.length (UInt64.ofNat front.length) =
        .array (strings.map fun string ↦ .text (Text.Utf8.decode string)) ∧
      decoder.value (.array (.fixed strings.length) (.text .bytes none)) (UInt64.ofNat front.length) =
        .array (strings.map fun string ↦ .text (Text.Utf8.decode string)) ∧
      (decoder.reportedSize (.array (.fixed strings.length) (.text .bytes none))
          (UInt64.ofNat front.length)).map UInt64.toNat =
        some (strings.map fun string ↦ string.length + 1).sum := by
  have hoffset : (UInt64.ofNat front.length).toNat = front.length := by
    apply UInt64.toNat_ofNat_of_lt'
    rw [List.length_append, List.length_append] at hcontent
    omega
  have hposition : (front ++ packed strings ++ back).drop (UInt64.ofNat front.length).toNat =
      packed strings ++ back := by
    rw [hoffset, List.append_assoc, List.drop_left]
  obtain ⟨hrun, hstop⟩ := run_packed hserves hcontent back hzero hshort hposition
  have harray : decoder.array (.text .bytes none) strings.length (UInt64.ofNat front.length) =
      .array (strings.map fun string ↦ .text (Text.Utf8.decode string)) := by
    rw [array_eq_run, clamp_of_le decoder hlimit, hrun]
  refine ⟨harray, harray, ?_⟩
  have hwithin : UInt64.ofNat front.length ≤ decoder.elementStart (.text .bytes none)
      (UInt64.ofNat front.length) strings.length := by
    rw [UInt64.le_iff_toNat_le, hstop]
    exact Nat.le_add_right _ _
  rw [reportedSize_eq_span, span_array, clamp_of_le decoder hlimit, Option.map_some,
    UInt64.toNat_sub_of_le _ _ hwithin, hstop, Nat.add_sub_cancel_left, length_packed]

/-- Bytes that are no UTF-8 in front of other strings, between bytes that belong to neither. -/
theorem array_packed_latin :
    let strings : List (List UInt8) := [[0xE9], [], [0xE2, 0x82], [0x78]]
    let decoder : Decoder :=
      ⟨.ofArray ([7, 7] ++ packed strings ++ [0x79, 0]).toArray, 4, 3, fun _ ↦ 0⟩
    ((∀ string ∈ strings, 0 ∉ string) ∧ (∀ string ∈ strings, string.length < decoder.window)) ∧
      decoder.value (.array (.fixed 4) (.text .bytes none)) 2 =
        .array [.text "�", .text "", .text "�", .text "x"] ∧
      (decoder.reportedSize (.array (.fixed 4) (.text .bytes none)) 2).map UInt64.toNat = some 8 := by
  intro strings decoder
  have hzero : ∀ string ∈ strings, 0 ∉ string := by decide
  have hshort : ∀ string ∈ strings, string.length < decoder.window := by decide
  have hserves : decoder.source.Serves ([7, 7] ++ packed strings ++ [0x79, 0]) :=
    Source.serves_ofArray _
  obtain ⟨-, hvalue, hsize⟩ := array_packed hserves (by decide) hzero hshort (by decide)
  exact ⟨⟨hzero, hshort⟩, hvalue, hsize⟩

end Decoder

end BinaryLayout
