import BinaryLayout.Proofs.ScalarValues
import BinaryLayout.Proofs.WideText

/-!
# Writing and Decoding UTF-16

A text of a fixed number of bytes is decoded to the text that was written, in each of the forms in which
it can be written. There are three layers, characters of one or two units, units of two bytes in either
order, and the mark, and each is undone with anything behind it. So a byte that is left over is decoded
on its own. Without a mark a text must not begin with what is read as one.
-/

namespace BinaryLayout

namespace Text.Utf16

def encode (character : Char) : List UInt16 :=
  if character.toNat < 0x10000 then [character.toNat.toUInt16]
  else
    let past := character.toNat - 0x10000
    [(0xD800 + past / 0x400).toUInt16, (0xDC00 + past % 0x400).toUInt16]

def unitsOf (text : String) : List UInt16 :=
  text.toList.flatMap encode

theorem toNat_toUInt16 {number : Nat} (hnumber : number < 0x10000) :
    number.toUInt16.toNat = number :=
  UInt16.toNat_ofNat_of_lt' hnumber

/-- A unit that is no surrogate is a character, whatever follows. -/
theorem characters_cons_of_single {unit : UInt16} (hunit : isLead unit = false) (rest : List UInt16) :
    characters (unit :: rest) = single unit :: characters rest := by
  cases rest with
  | nil => rfl
  | cons next rest => simp [characters, hunit]

theorem characters_encode_append (character : Char) (rest : List UInt16) :
    characters (encode character ++ rest) = character :: characters rest := by
  have hvalid : character.toNat < 0xD800 ∨ 0xDFFF < character.toNat ∧ character.toNat < 0x110000 :=
    character.valid
  unfold encode
  split
  · rename_i hsmall
    have hunit := toNat_toUInt16 hsmall
    have hlead : isLead character.toNat.toUInt16 = false := by
      rw [Bool.eq_false_iff, ne_eq, isLead_iff, hunit]
      omega
    have htrail : isTrail character.toNat.toUInt16 = false := by
      rw [Bool.eq_false_iff, ne_eq, isTrail_iff, hunit]
      omega
    rw [List.singleton_append, characters_cons_of_single hlead, single, hlead, htrail, hunit]
    simp
  · rename_i hlarge
    let past := character.toNat - 0x10000
    have hlead : (0xD800 + past / 0x400).toUInt16.toNat = 0xD800 + past / 0x400 :=
      toNat_toUInt16 (by omega)
    have htrail : (0xDC00 + past % 0x400).toUInt16.toNat = 0xDC00 + past % 0x400 :=
      toNat_toUInt16 (by omega)
    have hpair : isLead (0xD800 + past / 0x400).toUInt16 = true ∧
        isTrail (0xDC00 + past % 0x400).toUInt16 = true := by
      rw [isLead_iff, isTrail_iff, hlead, htrail]
      omega
    have hcharacter : paired (0xD800 + past / 0x400).toUInt16 (0xDC00 + past % 0x400).toUInt16 =
        character := by
      have hnumber : 0x10000 + 0x400 * (0xD800 + past / 0x400 - 0xD800) +
          (0xDC00 + past % 0x400 - 0xDC00) = character.toNat := by
        omega
      rw [paired, hlead, htrail, hnumber, Char.ofNat_toNat]
    change characters ((0xD800 + past / 0x400).toUInt16 :: (0xDC00 + past % 0x400).toUInt16 :: rest) = _
    rw [characters, hpair.1, hpair.2, hcharacter]
    rfl

/-- Decoding the units of a text gives the text, with what follows it decoded on its own. -/
theorem characters_unitsOf_append (text : String) (rest : List UInt16) :
    characters (unitsOf text ++ rest) = text.toList ++ characters rest := by
  unfold unitsOf
  induction text.toList with
  | nil => rfl
  | cons character others ih =>
    rw [List.flatMap_cons, List.append_assoc, characters_encode_append, ih, List.cons_append]

def mark : ByteOrder → List UInt8
  | .bigEndian => [0xFF, 0xFE]
  | .littleEndian => [0xFE, 0xFF]

/-- The bytes of a text, with a mark and in the order that it asks for, or without one and with the
least significant byte first. -/
def written (text : String) : Option ByteOrder → List UInt8
  | none => bytes .littleEndian (unitsOf text)
  | some order => mark order ++ bytes order (unitsOf text)

def BeginsWithMark (text : String) : Prop :=
  text.toList.head? = some '\ufeff' ∨ text.toList.head? = some '\ufffe'

instance (text : String) : Decidable (BeginsWithMark text) :=
  inferInstanceAs (Decidable (_ ∨ _))

theorem exists_encode_eq_cons (character : Char) : ∃ unit others, encode character = unit :: others ∧
    (unit.toNat = character.toNat ∨ isLead unit = true) := by
  have hvalid : character.toNat < 0xD800 ∨ 0xDFFF < character.toNat ∧ character.toNat < 0x110000 :=
    character.valid
  unfold encode
  split
  · rename_i hsmall
    exact ⟨_, _, rfl, .inl (toNat_toUInt16 hsmall)⟩
  · refine ⟨_, _, rfl, .inr ?_⟩
    rw [isLead_iff, toNat_toUInt16 (by omega)]
    omega

/-- A text that begins with no mark is not taken for one that does. -/
theorem split_unmarked {text : String} (htext : ¬ BeginsWithMark text) (hnonempty : text.toList ≠ [])
    (tail : List UInt8) :
    split (bytes .littleEndian (unitsOf text) ++ tail) =
      (.littleEndian, bytes .littleEndian (unitsOf text) ++ tail) := by
  obtain ⟨character, rest, hlist⟩ := List.exists_cons_of_ne_nil hnonempty
  obtain ⟨unit, others, hencode, hunit⟩ := exists_encode_eq_cons character
  have hbytes : ∃ more, bytes .littleEndian (unitsOf text) ++ tail = low unit :: high unit :: more := by
    simp [unitsOf, hlist, hencode, bytes, unitBytes]
  have hother {number : Nat} (hnumber : unit.toNat = number) (hlead : isLead unit = false) :
      text.toList.head? = some (Char.ofNat number) := by
    rcases hunit with hsame | hsurrogate
    · rw [hlist, List.head?_cons, ← hnumber, hsame, Char.ofNat_toNat]
    · rw [hlead] at hsurrogate
      cases hsurrogate
  obtain ⟨more, hmore⟩ := hbytes
  rw [hmore]
  apply split_of_ne
  · rintro rfl
    exact htext (.inl (hother rfl (by decide)))
  · rintro rfl
    exact htext (.inr (hother rfl (by decide)))

theorem split_marked (order : ByteOrder) (body : List UInt8) :
    split (mark order ++ body) = (order, body) := by
  cases order <;> rfl

/-- A text is decoded whole, and what follows it on its own. -/
theorem decode_written_append {text : String} {marked : Option ByteOrder}
    (hmarked : marked = none → ¬ BeginsWithMark text) (hlength : 2 ≤ (written text marked).length)
    (tail : List UInt8) :
    ∃ order, decode (written text marked ++ tail) =
      text ++ String.ofList (characters (Utf16.units order tail)) := by
  obtain ⟨order, hsplit⟩ : ∃ order, split (written text marked ++ tail) =
      (order, bytes order (unitsOf text) ++ tail) := by
    cases marked with
    | none =>
      refine ⟨.littleEndian, split_unmarked (hmarked rfl) ?_ tail⟩
      intro hnil
      simp [written, unitsOf, hnil] at hlength
    | some order =>
      refine ⟨order, ?_⟩
      rw [written, List.append_assoc, split_marked]
  have hlong : ¬ (written text marked ++ tail).length < 2 := by
    rw [List.length_append]
    omega
  refine ⟨order, ?_⟩
  rw [decode, if_neg hlong, hsplit]
  change String.ofList (characters (Utf16.units order (bytes order (unitsOf text) ++ tail))) = _
  rw [units_bytes_append, characters_unitsOf_append, String.ofList_append, String.ofList_toList]

theorem two_le_length_written {text : String} (htext : text ≠ "") (marked : Option ByteOrder) :
    2 ≤ (written text marked).length := by
  have hnonempty : text.toList ≠ [] := fun hnil ↦ htext (String.toList_eq_nil_iff.mp hnil)
  obtain ⟨character, rest, hlist⟩ := List.exists_cons_of_ne_nil hnonempty
  obtain ⟨unit, others, hencode, -⟩ := exists_encode_eq_cons character
  have hunits : 1 ≤ (unitsOf text).length := by simp [unitsOf, hlist, hencode]
  cases marked with
  | none =>
    rw [written, length_bytes]
    omega
  | some order =>
    rw [written, List.length_append, length_bytes]
    omega

/-- Decoding undoes writing. -/
theorem decode_written {text : String} {marked : Option ByteOrder}
    (hmarked : marked = none → ¬ BeginsWithMark text) : decode (written text marked) = text := by
  by_cases htext : text = ""
  · subst htext
    rcases marked with _ | _ | _ <;> rfl
  · obtain ⟨order, hdecode⟩ :=
      decode_written_append hmarked (two_le_length_written htext marked) []
    rw [List.append_nil] at hdecode
    rw [hdecode]
    exact String.append_empty

/-- A byte behind the text is decoded as the replacement character. -/
theorem decode_written_stray {text : String} {marked : Option ByteOrder}
    (hmarked : marked = none → ¬ BeginsWithMark text) (hlength : 2 ≤ (written text marked).length)
    (stray : UInt8) : decode (written text marked ++ [stray]) = text ++ "\ufffd" := by
  obtain ⟨order, hdecode⟩ := decode_written_append hmarked hlength [stray]
  rw [hdecode]
  rfl

end Text.Utf16

namespace Decoder

open Text.Utf16 (ByteOrder written BeginsWithMark)

/-- A text of a fixed number of bytes that are exactly those of a text decodes to this text: without a
mark if the text does not begin with one, and with a mark in either order always. A byte more behind at
least two gives the replacement character behind the text. -/
theorem value_utf16_written {decoder : Decoder} {offset : UInt64} {rest : List UInt8}
    (hoffers : decoder.source.Offers offset rest) (length : UInt64) (text : String)
    (marked : Option ByteOrder) (hmarked : marked = none → ¬ BeginsWithMark text) :
    (rest.take length.toNat = written text marked →
      decoder.value (.text .utf16 (some length)) offset = .text text) ∧
    ∀ stray, 2 ≤ (written text marked).length →
      rest.take length.toNat = written text marked ++ [stray] →
      decoder.value (.text .utf16 (some length)) offset = .text (text ++ "\ufffd") := by
  have hvalue : decoder.value (.text .utf16 (some length)) offset =
      .text (Text.Utf16.decode (rest.take length.toNat)) := by
    rw [← bytesAt_eq_take hoffers]
    rfl
  rw [hvalue]
  refine ⟨?_, ?_⟩
  · intro hbytes
    rw [hbytes, Text.Utf16.decode_written hmarked]
  · intro stray hlength hbytes
    rw [hbytes, Text.Utf16.decode_written_stray hmarked hlength]

/-- A text of three units without a mark, and behind it one with a mark that begins with a character that
is read as a mark, with a byte left over. -/
theorem value_utf16_written_both :
    let content := written "a😀" none ++ written "\ufeff😀" (some .bigEndian) ++ [0x41]
    let decoder : Decoder := ⟨.ofArray content.toArray, 0, 0, fun _ ↦ 0⟩
    (decoder.source.Offers 0 content ∧ ¬ BeginsWithMark "a😀" ∧ BeginsWithMark "\ufeff😀") ∧
      decoder.value (.text .utf16 (some 6)) 0 = .text "a😀" ∧
      decoder.value (.text .utf16 (some 8)) 6 = .text "\ufeff😀" ∧
      decoder.value (.text .utf16 (some 9)) 6 = .text "\ufeff😀\ufffd" := by
  intro content decoder
  have hoffers (offset : UInt64) : decoder.source.Offers offset (content.drop offset.toNat) :=
    (Source.serves_ofArray content).offers offset
  have hplain : ¬ BeginsWithMark "a😀" := by decide
  have hunmarked := value_utf16_written (hoffers 0) 6 "a😀" none fun _ ↦ hplain
  have hmarked (length : UInt64) := value_utf16_written (hoffers 6) length "\ufeff😀" (some .bigEndian)
    fun hnone ↦ by cases hnone
  exact ⟨⟨hoffers 0, hplain, by decide⟩, hunmarked.1 (by decide +kernel),
    (hmarked 8).1 (by decide +kernel), (hmarked 9).2 0x41 (by decide +kernel) (by decide +kernel)⟩

end Decoder

end BinaryLayout
