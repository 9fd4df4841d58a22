import BinaryLayout.Proofs.KeyTexts
import BinaryLayout.Yaml.Scalar
import Mathlib

/-!
# Byte Literals Can Be Read Back

A byte literal is read by the rules of the generated language, and reading what was written gives
the bytes again and stops right behind the closing quote. Bytes that look like an escape do not
mislead the reader, since a backslash is never written alone.
-/

namespace BinaryLayout

namespace Text.ByteLiteral

def letter? : Char → Option UInt8
  | '\\' => some 0x5C
  | '"' => some 0x22
  | '\x27' => some 0x27
  | 'n' => some 0x0A
  | 'r' => some 0x0D
  | 't' => some 0x09
  | '0' => some 0x00
  | _ => none

def plain? (character : Char) : Option UInt8 :=
  if character.toNat < 0x80 ∧ character ≠ '\r' then some (.ofNat character.toNat) else none

/-- The bytes up to the closing quote, and what stands behind it. -/
def readBody : List Char → Option (List UInt8 × List Char)
  | [] => none
  | '"' :: rest => some ([], rest)
  | '\\' :: 'x' :: high :: low :: rest =>
    (Yaml.Scalar.hexNumber? [high, low]).bind fun number ↦
      (readBody rest).map (Prod.map (UInt8.ofNat number :: ·) id)
  | '\\' :: letter :: rest =>
    (letter? letter).bind fun byte ↦ (readBody rest).map (Prod.map (byte :: ·) id)
  | character :: rest =>
    (plain? character).bind fun byte ↦ (readBody rest).map (Prod.map (byte :: ·) id)

def read : List Char → Option (List UInt8 × List Char)
  | 'b' :: '"' :: rest => readBody rest
  | _ => none

theorem hexNumber?_digitChar : ∀ high < 16, ∀ low < 16,
    Yaml.Scalar.hexNumber? [Nat.digitChar high, Nat.digitChar low] = some (16 * high + low) := by
  decide

theorem plain?_eq_some {character : Char} (hprintable : IsPrintable character) :
    plain? character = some (.ofNat character.toNat) := by
  obtain ⟨-, hlast⟩ := (isPrintable_iff character).mp hprintable
  have hreturn : character ≠ '\r' := by
    rintro rfl
    exact absurd hprintable (by decide)
  rw [plain?, if_pos ⟨by omega, hreturn⟩]

theorem readBody_escape (byte : UInt8) (rest : List Char) :
    readBody (escape byte ++ rest) = (readBody rest).map (Prod.map (byte :: ·) id) := by
  rcases escape_cases byte with ⟨rfl, hescape⟩ | ⟨rfl, hescape⟩ |
    ⟨character, hsame, hprintable, hquote, hbackslash, hescape⟩ |
    ⟨high, hhigh, low, hlow, hnumber, hescape⟩
  · rw [hescape]
    rfl
  · rw [hescape]
    rfl
  · rw [hescape, List.singleton_append, readBody, plain?_eq_some hprintable, hsame,
      UInt8.ofNat_toNat]
    · rfl
    · exact hquote
    · exact fun _ _ _ hstart _ ↦ hbackslash hstart
    · exact fun _ _ hstart _ ↦ hbackslash hstart
  · rw [hescape]
    simp only [List.cons_append, List.nil_append, readBody]
    rw [hexNumber?_digitChar high hhigh low hlow, ← hnumber, Option.bind_some,
      UInt8.ofNat_toNat]

theorem toList_literal (bytes : List UInt8) :
    (literal bytes).toList = 'b' :: '"' :: (bytes.flatMap escape ++ ['"']) := by
  simp [literal]

theorem readBody_flatMap (bytes : List UInt8) (rest : List Char) :
    readBody (bytes.flatMap escape ++ '"' :: rest) = some (bytes, rest) := by
  induction bytes with
  | nil => rfl
  | cons byte bytes ih =>
    rw [List.flatMap_cons, List.append_assoc, readBody_escape, ih]
    rfl

theorem read_literal (bytes : List UInt8) (rest : List Char) :
    read ((literal bytes).toList ++ rest) = some (bytes, rest) := by
  rw [toList_literal, List.cons_append, List.cons_append, read, List.append_assoc,
    List.singleton_append, readBody_flatMap]

theorem literal_injective : Function.Injective literal := by
  intro first second hsame
  have hread := read_literal first []
  rw [hsame, read_literal second []] at hread
  exact (congrArg Prod.fst (Option.some.inj hread)).symm

theorem isPrintable_literal (bytes : List UInt8) :
    ∀ character ∈ (literal bytes).toList, IsPrintable character := by
  obtain ⟨hfront, hquote, -, -⟩ := isPrintable_marks
  have hbody : ∀ character ∈ bytes.flatMap escape, IsPrintable character := by
    intro character hcharacter
    obtain ⟨byte, -, hbyte⟩ := List.mem_flatMap.mp hcharacter
    exact isPrintable_escape byte character hbyte
  intro character hcharacter
  simp only [toList_literal, List.mem_cons, List.mem_append, List.not_mem_nil, or_false]
    at hcharacter
  rcases hcharacter with rfl | rfl | hinside | rfl
  · exact hfront
  · exact hquote
  · exact hbody character hinside
  · exact hquote

end Text.ByteLiteral

namespace Code

/-- The text with every line but the first indented, unless it is empty. -/
def indentTail (count : Nat) (text : String) : String :=
  let (first, rest) := splitBreaks text.toList
  String.intercalate "\n" <| String.ofList first :: rest.map fun line ↦
    if line.isEmpty then "" else spaces count ++ String.ofList line

theorem indentTail_of_notMem (count : Nat) {text : String} (htext : '\n' ∉ text.toList) :
    indentTail count text = text := by
  simp [indentTail, Words.splitBreaks_of_notMem htext]

/-- The lines that a wording is put on. -/
theorem lines_wrapped (text : String) :
    (wrapped [] text).lines =
      ⟨0, [.text (String.ofList (splitBreaks text.toList).1)]⟩ ::
        (splitBreaks text.toList).2.map fun line ↦
          ⟨0, if line.isEmpty then [] else [.text (String.ofList line)]⟩ := by
  have hlines (line : List Char) :
      (if line.isEmpty then blank else Code.line [.text (String.ofList line)]).lines =
        [⟨0, if line.isEmpty then [] else [.text (String.ofList line)]⟩] := by
    split <;> rfl
  have hsplit : (wrapped [] text).lines =
      ⟨0, [.text (String.ofList (splitBreaks text.toList).1)]⟩ ::
        ((splitBreaks text.toList).2.map fun line ↦ if line.isEmpty then blank
          else Code.line [.text (String.ofList line)]).flatMap Code.lines :=
    rfl
  rw [hsplit, List.flatMap_map, ← List.flatMap_pure_eq_map]
  exact congrArg _ (List.flatMap_congr fun line _ ↦ hlines line)

/-- A wording that is put on lines and indented is its first line and the indented tail, behind the
indentation of the first line. -/
theorem render_indented_wrapped (count : Nat) (text : String) :
    ((wrapped [] text).indented count).render = spaces count ++ indentTail count text := by
  have hline (line : List Char) :
      Line.render ⟨0 + count, if line.isEmpty then [] else [.text (String.ofList line)]⟩ =
        if line.isEmpty then "" else spaces count ++ String.ofList line := by
    by_cases hempty : line.isEmpty = true
    · simp [hempty, Line.render]
    · simp [hempty, Line.render, Part.render, String.join]
  simp only [render, indented, lines_wrapped, List.map_cons, List.map_map, indentTail]
  rw [← String.intercalate_cons_append]
  refine congrArg _ (congrArg₂ _ ?_ (List.map_congr_left fun line _ ↦ hline line))
  simp [Line.render, Part.render, String.join]

end Code

namespace Text.ByteLiteral

/-- Byte literals round-trip. Of any bytes the literal is printable ASCII between quotes, with
neither an unescaped quote nor a line break inside; reading it, with anything behind it, gives the
bytes and stops right behind the closing quote. So different bytes have different literals, and a
literal stays as it is when the code around it is indented. -/
theorem literal_roundtrip (bytes : List UInt8) :
    (∃ body, (literal bytes).toList = 'b' :: '"' :: (body ++ ['"']) ∧ Enclosed body ∧
      '\n' ∉ body ∧ '\r' ∉ body) ∧
    (∀ character ∈ (literal bytes).toList, ' ' ≤ character ∧ character ≤ '~') ∧
    (∀ rest, read ((literal bytes).toList ++ rest) = some (bytes, rest)) ∧
    (∀ other, literal other = literal bytes → other = bytes) ∧
    (∀ count, Code.indentTail count (literal bytes) = literal bytes ∧
      ((Code.wrapped [] (literal bytes)).indented count).render =
        Code.spaces count ++ literal bytes) := by
  have hprintable := isPrintable_literal bytes
  have hbreak : '\n' ∉ (literal bytes).toList := fun hmem ↦ absurd (hprintable _ hmem) (by decide)
  have hreturn : '\r' ∉ (literal bytes).toList := fun hmem ↦ absurd (hprintable _ hmem) (by decide)
  refine ⟨⟨bytes.flatMap escape, toList_literal bytes, .flatMap enclosed_escape bytes, ?_, ?_⟩,
    hprintable, read_literal bytes, fun other hsame ↦ literal_injective hsame, fun count ↦ ?_⟩
  · simp only [toList_literal, List.mem_cons, List.mem_append, not_or] at hbreak
    exact hbreak.2.2.1
  · simp only [toList_literal, List.mem_cons, List.mem_append, not_or] at hreturn
    exact hreturn.2.2.1
  · have htail := Code.indentTail_of_notMem count hbreak
    exact ⟨htail, by rw [Code.render_indented_wrapped, htail]⟩

/-- Bytes that imitate an escape, a quote and a line break. -/
theorem literal_roundtrip_imitating :
    (literal [0x5C, 0x78, 0x34, 0x31, 0x22, 0x0A]).toList = "b\"\\\\x41\\\"\\x0a\"".toList ∧
    read "b\"\\\\x41\\\"\\x0a\", 7".toList =
      some ([0x5C, 0x78, 0x34, 0x31, 0x22, 0x0A], ", 7".toList) := by
  have hliteral : (literal [0x5C, 0x78, 0x34, 0x31, 0x22, 0x0A]).toList =
      "b\"\\\\x41\\\"\\x0a\"".toList := by
    decide
  obtain ⟨-, -, hread, -⟩ := literal_roundtrip [0x5C, 0x78, 0x34, 0x31, 0x22, 0x0A]
  refine ⟨hliteral, ?_⟩
  rw [← hread, hliteral]
  rfl

end Text.ByteLiteral

end BinaryLayout
