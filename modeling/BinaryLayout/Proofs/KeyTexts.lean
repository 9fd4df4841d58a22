import BinaryLayout.Proofs.KeySoundness
import BinaryLayout.Proofs.QuotedText
import BinaryLayout.Proofs.ValueNames
import Mathlib

/-!
# The Texts Behind Keys

The choices of an enumeration and the names of flags enter a key through the checksum of a text. The
text determines them: every part of it can be told from what stands behind it, so the records can be
read off one after another, whatever quotes, separators or whole records a name may imitate. Little
is used of the way names are quoted, and nothing of the tables of characters that need an escape.
-/

namespace BinaryLayout

namespace Text

variable {α β : Type}

/-- Whatever stands behind what is written, the value and the rest can be told from the whole. -/
def SelfDelimiting (write : α → List Char) : Prop :=
  ∀ ⦃first second : α⦄ ⦃rest rest' : List Char⦄,
    write first ++ rest = write second ++ rest' → first = second ∧ rest = rest'

namespace SelfDelimiting

variable {write : α → List Char} {write' : β → List Char}

theorem single : SelfDelimiting fun character : Char ↦ [character] := by
  intro first second rest rest' hsame
  exact List.cons.inj hsame

theorem pair (hwrite : SelfDelimiting write) (hwrite' : SelfDelimiting write') :
    SelfDelimiting fun value : α × β ↦ write value.1 ++ write' value.2 := by
  intro first second rest rest' hsame
  simp only [List.append_assoc] at hsame
  obtain ⟨hleft, hback⟩ := hwrite hsame
  obtain ⟨hright, hrest⟩ := hwrite' hback
  exact ⟨Prod.ext hleft hright, hrest⟩

theorem between (hwrite : SelfDelimiting write) (front back : List Char) :
    SelfDelimiting fun value ↦ front ++ write value ++ back := by
  intro first second rest rest' hsame
  simp only [List.append_assoc, List.append_cancel_left_eq] at hsame
  obtain ⟨hvalue, hback⟩ := hwrite hsame
  exact ⟨hvalue, List.append_cancel_left hback⟩

/-- A separator that does not occur in what is written ends it. -/
theorem of_separator {separator : Char} (hwrite : Function.Injective write)
    (habsent : ∀ value, separator ∉ write value) :
    SelfDelimiting fun value ↦ write value ++ [separator] := by
  intro first second rest rest' hsame
  simp only [List.append_assoc, List.singleton_append] at hsame
  obtain ⟨hfront, hrest⟩ := split_separator (habsent first) (habsent second) hsame
  exact ⟨hwrite hfront, hrest⟩

/-- Values written one behind another can be told from the whole. The induction reads one off at a
time. -/
theorem flatMap_injective (hwrite : SelfDelimiting write) (hsome : ∀ value, write value ≠ []) :
    Function.Injective fun values : List α ↦ values.flatMap write := by
  intro values
  induction values with
  | nil =>
    intro others hsame
    cases others with
    | nil => rfl
    | cons other others =>
      have hnil : write other ++ others.flatMap write = [] := hsame.symm
      exact absurd (List.append_eq_nil_iff.mp hnil).1 (hsome other)
  | cons value values ih =>
    intro others hsame
    cases others with
    | nil =>
      have hnil : write value ++ values.flatMap write = [] := hsame
      exact absurd (List.append_eq_nil_iff.mp hnil).1 (hsome value)
    | cons other others =>
      obtain ⟨rfl, hrest⟩ := hwrite hsame
      rw [ih hrest]

end SelfDelimiting

/-- What is used of a way to quote text: it stands between quotes, written character by character,
no quote inside ends it, and it can be told from what is written. -/
structure Quoting (quote : String → String) (escape : Char → List Char) : Prop where
  wraps : ∀ text, quote text = String.ofList ('"' :: text.toList.flatMap escape ++ ['"'])
  encloses : ∀ character, Enclosed (escape character)
  injective : Function.Injective fun text : List Char ↦ text.flatMap escape

theorem Quoting.selfDelimiting {quote : String → String} {escape : Char → List Char}
    (hquote : Quoting quote escape) : SelfDelimiting fun text ↦ (quote text).toList := by
  intro first second rest rest' hsame
  simp only [hquote.wraps, String.toList_ofList, List.cons_append, List.append_assoc,
    List.nil_append, List.cons.injEq, true_and] at hsame
  obtain ⟨hbody, hrest⟩ := (Enclosed.flatMap hquote.encloses first.toList).closing
    (Enclosed.flatMap hquote.encloses second.toList) hsame
  exact ⟨String.toList_injective (hquote.injective hbody), hrest⟩

namespace Quoted

theorem codePoint_selfDelimiting : SelfDelimiting codePoint := by
  have habsent (character : Char) : '\x7d' ∉ Nat.toDigits 16 character.toNat := by
    have hdigits : ∀ digit ∈ Nat.toDigits 16 character.toNat, digit ≠ '\x7d' :=
      forall_mem_toDigits (by decide) (by decide) (by decide) _
    exact fun hmem ↦ hdigits _ hmem rfl
  have hinjective : Function.Injective fun character : Char ↦ Nat.toDigits 16 character.toNat :=
    fun first second hsame ↦ Char.toNat_inj.mp (toDigits_sixteen_injective hsame)
  have hseparated := (SelfDelimiting.of_separator hinjective habsent).between ['\\', 'u', '\x7b'] []
  intro first second rest rest' hsame
  exact hseparated (by simpa [codePoint] using hsame)

theorem letters_injective : ∀ first ∈ letters, ∀ second ∈ letters, first.2 = second.2 →
    first.1 = second.1 := by
  decide

theorem letters_ne_u : ∀ entry ∈ letters, entry.2 ≠ 'u' := by
  decide

/-- Characters written in different forms differ in the first two places. -/
theorem escape_selfDelimiting : SelfDelimiting escape := by
  intro first second rest rest' hsame
  rcases escape_cases first with ⟨letter, hletter, hfirst⟩ | hfirst | ⟨-, hplain, hfirst⟩
  · rcases escape_cases second with ⟨letter', hletter', hsecond⟩ | hsecond | ⟨-, hplain', hsecond⟩
    · rw [hfirst, hsecond] at hsame
      obtain ⟨rfl, hrest⟩ := List.cons.inj (List.cons.inj hsame).2
      exact ⟨letters_injective _ hletter _ hletter' rfl, hrest⟩
    · rw [hfirst, hsecond] at hsame
      exact absurd (List.cons.inj (List.cons.inj hsame).2).1 (letters_ne_u _ hletter)
    · rw [hfirst, hsecond] at hsame
      exact absurd (List.cons.inj hsame).1.symm hplain'
  · rcases escape_cases second with ⟨letter', hletter', hsecond⟩ | hsecond | ⟨-, hplain', hsecond⟩
    · rw [hfirst, hsecond] at hsame
      exact absurd (List.cons.inj (List.cons.inj hsame).2).1.symm (letters_ne_u _ hletter')
    · rw [hfirst, hsecond] at hsame
      exact codePoint_selfDelimiting hsame
    · rw [hfirst, hsecond] at hsame
      exact absurd (List.cons.inj hsame).1.symm hplain'
  · rcases escape_cases second with ⟨letter', hletter', hsecond⟩ | hsecond | ⟨-, -, hsecond⟩
    · rw [hfirst, hsecond] at hsame
      exact absurd (List.cons.inj hsame).1 hplain
    · rw [hfirst, hsecond] at hsame
      exact absurd (List.cons.inj hsame).1 hplain
    · rw [hfirst, hsecond] at hsame
      exact List.cons.inj hsame

theorem quoting : Quoting quote escape where
  wraps _ := rfl
  encloses := enclosed_escape
  injective := escape_selfDelimiting.flatMap_injective escape_ne_nil

end Quoted

end Text

/-! ## The records of a key -/

open Text

variable {quote : String → String} {escape : Char → List Char}

namespace Enumeration

def writeChoice (quote : String → String) (choice : Int × String) : List Char :=
  ((toString choice.1).toList ++ ['=']) ++ ((quote choice.2).toList ++ [';'])

theorem toList_canonical (quote : String → String) (enumeration : Enumeration) :
    (enumeration.canonical quote).toList = enumeration.choices.flatMap (writeChoice quote) := by
  unfold writeChoice
  simp [canonical, String.toList_join, List.flatMap_map]

theorem equals_notMem_toString (key : Int) : '=' ∉ (toString key).toList := by
  cases key with
  | ofNat number => exact notMem_toString_nat (by decide) number
  | negSucc number =>
    have htext : toString (Int.negSucc number) = "-" ++ toString (number + 1) := rfl
    rw [htext, String.toList_append, List.mem_append, not_or]
    exact ⟨by decide, notMem_toString_nat (by decide) (number + 1)⟩

theorem writeChoice_selfDelimiting (hquote : Quoting quote escape) :
    SelfDelimiting (writeChoice quote) := by
  have hkey : SelfDelimiting fun key : Int ↦ (toString key).toList ++ ['='] :=
    .of_separator (fun first second hdigits ↦ Int.repr_injective (String.toList_injective hdigits))
      equals_notMem_toString
  have hname : SelfDelimiting fun name ↦ (quote name).toList ++ [';'] :=
    hquote.selfDelimiting.between [] [';']
  exact hkey.pair hname

theorem choices_eq_of_canonical_eq (hquote : Quoting quote escape) {first second : Enumeration}
    (hsame : first.canonical quote = second.canonical quote) : first.choices = second.choices := by
  have hlists := congrArg String.toList hsame
  rw [toList_canonical, toList_canonical] at hlists
  refine (writeChoice_selfDelimiting hquote).flatMap_injective ?_ hlists
  simp [writeChoice]

end Enumeration

namespace Flags

def writeEntry (quote : String → String) (entry : Char × String × UInt64) : List Char :=
  [entry.1] ++ ((':' :: (quote entry.2.1).toList ++ ['=']) ++
    ((toString entry.2.2.toNat).toList ++ [';']))

def entries (flags : Flags) : List (Char × String × UInt64) :=
  flags.bitmap.map (Prod.mk 'b') ++ flags.maskmap.map (Prod.mk 'm')

theorem toList_canonical (quote : String → String) (flags : Flags) :
    (flags.canonical quote).toList = flags.entries.flatMap (writeEntry quote) := by
  simp [canonical, String.toList_join, List.flatMap_map, entries, record, writeEntry]

theorem writeEntry_selfDelimiting (hquote : Quoting quote escape) :
    SelfDelimiting (writeEntry quote) := by
  have hname : SelfDelimiting fun name ↦ [':'] ++ (quote name).toList ++ ['='] :=
    hquote.selfDelimiting.between [':'] ['=']
  have hnumber : SelfDelimiting fun number : UInt64 ↦ (toString number.toNat).toList ++ [';'] :=
    .of_separator (fun first second hdigits ↦ UInt64.toNat_inj.mp
      (Nat.repr_inj.mp (String.toList_injective hdigits)))
      fun number ↦ notMem_toString_nat (by decide) number.toNat
  exact SelfDelimiting.single.pair (hname.pair hnumber)

/-- The letters tell the maps apart. -/
theorem entries_injective {first second : Flags} (hentries : first.entries = second.entries) :
    first.bitmap = second.bitmap ∧ first.maskmap = second.maskmap := by
  -- Each map is what is left when only the names with its letter are kept.
  have hpart (letter : Char) := congrArg
    (List.filterMap fun entry ↦ if entry.1 = letter then some entry.2 else none) hentries
  constructor
  · simpa [entries, List.filterMap_map, Function.comp_def] using hpart 'b'
  · simpa [entries, List.filterMap_map, Function.comp_def] using hpart 'm'

theorem maps_eq_of_canonical_eq (hquote : Quoting quote escape) {first second : Flags}
    (hsame : first.canonical quote = second.canonical quote) :
    first.bitmap = second.bitmap ∧ first.maskmap = second.maskmap := by
  have hlists := congrArg String.toList hsame
  rw [toList_canonical, toList_canonical] at hlists
  refine entries_injective ((writeEntry_selfDelimiting hquote).flatMap_injective ?_ hlists)
  simp [writeEntry]

end Flags

/-- The texts behind keys are unambiguous. Names are quoted in a way of which only this is used:
they stand between quotes, character by character, no quote inside ends them, and they can be told
from what is written. For any such quoting, enumerations with the same text have the same choices,
and flags with the same text have the same names of bits and the same names of masks. -/
theorem canonical_determines :
    Quoting Quoted.quote Quoted.escape ∧
    ∀ quote escape, Quoting quote escape →
      (∀ first second : Enumeration, first.canonical quote = second.canonical quote →
        first.choices = second.choices) ∧
      (∀ first second : Flags, first.canonical quote = second.canonical quote →
        first.bitmap = second.bitmap ∧ first.maskmap = second.maskmap) := by
  refine ⟨Quoted.quoting, fun quote escape hquote ↦ ⟨?_, ?_⟩⟩
  · intro first second hsame
    exact Enumeration.choices_eq_of_canonical_eq hquote hsame
  · intro first second hsame
    exact Flags.maps_eq_of_canonical_eq hquote hsame

/-- A choice that imitates a second choice, and a name of a bit that imitates one of a mask. -/
theorem canonical_determines_imitated :
    Quoting Quoted.quote Quoted.escape ∧
    (⟨.w8, [(1, "a\";2=\"b")]⟩ : Enumeration).canonical Quoted.quote ≠
      (⟨.w8, [(1, "a"), (2, "b")]⟩ : Enumeration).canonical Quoted.quote ∧
    (⟨.w8, [("a\"=1;m:\"b", 1)], []⟩ : Flags).canonical Quoted.quote ≠
      (⟨.w8, [("a", 1)], [("b", 1)]⟩ : Flags).canonical Quoted.quote := by
  obtain ⟨hquote, hdetermines⟩ := canonical_determines
  obtain ⟨hchoices, hmaps⟩ := hdetermines _ _ hquote
  exact ⟨hquote, fun hsame ↦ absurd (hchoices _ _ hsame) (by decide),
    fun hsame ↦ absurd (hmaps _ _ hsame).1 (by decide)⟩

end BinaryLayout
