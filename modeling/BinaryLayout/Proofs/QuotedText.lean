import BinaryLayout.Text.ByteLiteral
import BinaryLayout.Text.Quoted
import Mathlib

/-!
# Text Between Quotes

The literals of generated code stand between quotes, and what is written there never ends them early:
a quote inside stands behind a backslash, and so does a backslash. Characters and bytes are each
written in one of a few forms, from which the facts about whole literals follow.
-/

namespace BinaryLayout

theorem exists_digitChar {base number : Nat} (hbase : 1 < base) {character : Char}
    (hcharacter : character ∈ Nat.toDigits base number) :
    ∃ digit < base, character = Nat.digitChar digit := by
  induction number using Nat.strong_induction_on with
  | _ number ih =>
    by_cases hsmall : number < base
    · rw [Nat.toDigits_of_lt_base hsmall] at hcharacter
      exact ⟨number, hsmall, List.mem_singleton.mp hcharacter⟩
    · have hless : number % base < base := Nat.mod_lt number (by omega)
      have hquotient : 0 < number / base := Nat.div_pos (by omega) (by omega)
      have hsplit := Nat.toDigits_append_toDigits hbase hquotient hless
      rw [Nat.div_add_mod] at hsplit
      rw [← hsplit, Nat.toDigits_of_lt_base hless, List.mem_append] at hcharacter
      rcases hcharacter with hfront | hlast
      · exact ih _ (Nat.div_lt_self (by omega) hbase) hfront
      · exact ⟨_, hless, List.mem_singleton.mp hlast⟩

/-- A property of the hexadecimal digits holds of every character of a number. -/
theorem forall_mem_toDigits {property : Char → Prop} {base : Nat} (hbase : 1 < base)
    (hsixteen : base ≤ 16) (hproperty : ∀ digit < 16, property (Nat.digitChar digit)) (number : Nat) :
    ∀ character ∈ Nat.toDigits base number, property character := by
  intro character hcharacter
  obtain ⟨digit, hdigit, rfl⟩ := exists_digitChar hbase hcharacter
  exact hproperty digit (by omega)

namespace Text

variable {α : Type}

/-- Text that no quote ends: a backslash takes the next character along, and every quote is taken
along by one. -/
inductive Enclosed : List Char → Prop
  | nil : Enclosed []
  | plain {character : Char} {rest : List Char} (hquote : character ≠ '"')
      (hbackslash : character ≠ '\\') (hrest : Enclosed rest) : Enclosed (character :: rest)
  | escaped {character : Char} {rest : List Char} (hrest : Enclosed rest) :
      Enclosed ('\\' :: character :: rest)

namespace Enclosed

theorem append {front back : List Char} (hfront : Enclosed front) (hback : Enclosed back) :
    Enclosed (front ++ back) := by
  induction hfront with
  | nil => exact hback
  | plain hquote hbackslash _ ih => exact .plain hquote hbackslash ih
  | escaped _ ih => exact .escaped ih

theorem of_plain {text : List Char}
    (htext : ∀ character ∈ text, character ≠ '"' ∧ character ≠ '\\') : Enclosed text := by
  induction text with
  | nil => exact .nil
  | cons character rest ih =>
    obtain ⟨hquote, hbackslash⟩ := htext character List.mem_cons_self
    have hrest := ih fun other hother ↦ htext other (List.mem_cons_of_mem _ hother)
    exact .plain hquote hbackslash hrest

theorem flatMap {escape : α → List Char} (hescape : ∀ value, Enclosed (escape value))
    (values : List α) : Enclosed (values.flatMap escape) := by
  induction values with
  | nil => exact .nil
  | cons value values ih => exact (hescape value).append ih

/-- The first quote behind enclosed text is where the text ends. -/
theorem closing {first second : List Char} (hfirst : Enclosed first) (hsecond : Enclosed second)
    {rest rest' : List Char} (hsame : first ++ '"' :: rest = second ++ '"' :: rest') :
    first = second ∧ rest = rest' := by
  induction hfirst generalizing second with
  | nil =>
    cases hsecond with
    | nil => exact ⟨rfl, (List.cons.inj hsame).2⟩
    | plain hquote _ _ => exact absurd (List.cons.inj hsame).1.symm hquote
    | escaped _ => exact absurd (List.cons.inj hsame).1 (by decide)
  | plain hquote hbackslash _ ih =>
    cases hsecond with
    | nil => exact absurd (List.cons.inj hsame).1 hquote
    | plain _ _ hsecond =>
      obtain ⟨rfl, hback⟩ := List.cons.inj hsame
      obtain ⟨rfl, hrest⟩ := ih hsecond hback
      exact ⟨rfl, hrest⟩
    | escaped _ => exact absurd (List.cons.inj hsame).1 hbackslash
  | escaped _ ih =>
    cases hsecond with
    | nil => exact absurd (List.cons.inj hsame).1 (by decide)
    | plain _ hbackslash _ => exact absurd (List.cons.inj hsame).1.symm hbackslash
    | escaped hsecond =>
      obtain ⟨rfl, hback⟩ := List.cons.inj (List.cons.inj hsame).2
      obtain ⟨rfl, hrest⟩ := ih hsecond hback
      exact ⟨rfl, hrest⟩

end Enclosed

/-! ## Characters -/

namespace Quoted

/-- The characters with a letter of their own behind the backslash. -/
def letters : List (Char × Char) :=
  [('"', '"'), ('\\', '\\'), ('\n', 'n'), ('\r', 'r'), ('\t', 't'), ('\x00', '0')]

/-- The forms that a character can be written in. -/
theorem escape_cases (character : Char) :
    (∃ letter, (character, letter) ∈ letters ∧ escape character = ['\\', letter]) ∨
    escape character = codePoint character ∨
    (character ≠ '"' ∧ character ≠ '\\' ∧ escape character = [character]) := by
  unfold escape
  split
  · rename_i hsame
    exact .inl ⟨'"', by simp [letters, hsame], rfl⟩
  split
  · rename_i hsame
    exact .inl ⟨'\\', by simp [letters, hsame], rfl⟩
  split
  · rename_i hsame
    exact .inl ⟨'n', by simp [letters, hsame], rfl⟩
  split
  · rename_i hsame
    exact .inl ⟨'r', by simp [letters, hsame], rfl⟩
  split
  · rename_i hsame
    exact .inl ⟨'t', by simp [letters, hsame], rfl⟩
  split
  · rename_i hsame
    exact .inl ⟨'0', by simp [letters, hsame], rfl⟩
  split
  · exact .inr (.inl rfl)
  · rename_i hquote hbackslash _ _ _ _ _
    exact .inr (.inr ⟨hquote, hbackslash, rfl⟩)

theorem escape_ne_nil (character : Char) : escape character ≠ [] := by
  rcases escape_cases character with ⟨letter, -, hescape⟩ | hescape | ⟨-, -, hescape⟩ <;>
    simp [hescape, codePoint]

theorem enclosed_codePoint (character : Char) : Enclosed (codePoint character) := by
  refine .escaped (.of_plain fun other hother ↦ ?_)
  have hdigits : ∀ digit ∈ Nat.toDigits 16 character.toNat, digit ≠ '"' ∧ digit ≠ '\\' :=
    forall_mem_toDigits (by decide) (by decide) (by decide) _
  have hcases : other = '\x7b' ∨ other ∈ Nat.toDigits 16 character.toNat ∨ other = '\x7d' := by
    simpa using hother
  rcases hcases with rfl | hdigit | rfl
  · decide
  · exact hdigits other hdigit
  · decide

theorem enclosed_escape (character : Char) : Enclosed (escape character) := by
  rcases escape_cases character with ⟨letter, -, hescape⟩ | hescape | ⟨hquote, hbackslash, hescape⟩
  · rw [hescape]
    exact .escaped .nil
  · rw [hescape]
    exact enclosed_codePoint character
  · rw [hescape]
    exact .plain hquote hbackslash .nil

end Quoted

namespace ByteLiteral

def IsPrintable (character : Char) : Prop :=
  ' ' ≤ character ∧ character ≤ '~'

instance (character : Char) : Decidable (IsPrintable character) :=
  inferInstanceAs (Decidable (_ ∧ _))

theorem isPrintable_iff (character : Char) :
    IsPrintable character ↔ 0x20 ≤ character.toNat ∧ character.toNat ≤ 0x7E := by
  simp only [IsPrintable, Char.le_def, UInt32.le_iff_toNat_le]
  rfl

theorem isPrintable_marks :
    IsPrintable 'b' ∧ IsPrintable '"' ∧ IsPrintable '\\' ∧ IsPrintable 'x' := by
  decide

theorem isPrintable_digitChar : ∀ digit < 16, IsPrintable (Nat.digitChar digit) ∧
    Nat.digitChar digit ≠ '"' ∧ Nat.digitChar digit ≠ '\\' := by
  decide

/-- The forms that a byte can be written in. -/
theorem escape_cases (byte : UInt8) :
    (byte = 0x22 ∧ escape byte = ['\\', '"']) ∨
    (byte = 0x5C ∧ escape byte = ['\\', '\\']) ∨
    (∃ character : Char, character.toNat = byte.toNat ∧ IsPrintable character ∧
      character ≠ '"' ∧ character ≠ '\\' ∧ escape byte = [character]) ∨
    (∃ high < 16, ∃ low < 16, byte.toNat = 16 * high + low ∧
      escape byte = ['\\', 'x', Nat.digitChar high, Nat.digitChar low]) := by
  unfold escape
  split
  · rename_i hsame
    exact .inl ⟨hsame, rfl⟩
  split
  · rename_i hsame
    exact .inr (.inl ⟨hsame, rfl⟩)
  split
  · rename_i hquote hbackslash hrange
    have hnumber : (Char.ofNat byte.toNat).toNat = byte.toNat := by
      have hbyte := byte.toNat_lt
      rw [Char.toNat_ofNat, if_pos (.inl (by omega))]
    have hother {other : UInt8} (hdiffers : byte ≠ other) :
        (Char.ofNat byte.toNat).toNat ≠ other.toNat :=
      fun hsame ↦ hdiffers (UInt8.toNat_inj.mp (hnumber ▸ hsame))
    refine .inr (.inr (.inl ⟨_, hnumber, ?_, ?_, ?_, rfl⟩))
    · rw [isPrintable_iff, hnumber]
      exact ⟨UInt8.le_iff_toNat_le.mp hrange.1, UInt8.le_iff_toNat_le.mp hrange.2⟩
    · exact fun hsame ↦ hother hquote (congrArg Char.toNat hsame)
    · exact fun hsame ↦ hother hbackslash (congrArg Char.toNat hsame)
  · have hbyte := byte.toNat_lt
    exact .inr (.inr (.inr ⟨byte.toNat / 16, by omega, byte.toNat % 16, by omega, by omega, rfl⟩))

theorem enclosed_escape (byte : UInt8) : Enclosed (escape byte) := by
  rcases escape_cases byte with ⟨-, hescape⟩ | ⟨-, hescape⟩ |
    ⟨character, -, -, hquote, hbackslash, hescape⟩ | ⟨high, hhigh, low, hlow, -, hescape⟩
  · rw [hescape]
    exact .escaped .nil
  · rw [hescape]
    exact .escaped .nil
  · rw [hescape]
    exact .plain hquote hbackslash .nil
  · obtain ⟨-, hquote, hbackslash⟩ := isPrintable_digitChar high hhigh
    obtain ⟨-, hquote', hbackslash'⟩ := isPrintable_digitChar low hlow
    rw [hescape]
    exact .escaped (.plain hquote hbackslash (.plain hquote' hbackslash' .nil))

theorem isPrintable_escape (byte : UInt8) : ∀ character ∈ escape byte, IsPrintable character := by
  obtain ⟨-, hquote, hbackslash, hx⟩ := isPrintable_marks
  rcases escape_cases byte with ⟨-, hescape⟩ | ⟨-, hescape⟩ |
    ⟨character, -, hprintable, -, -, hescape⟩ | ⟨high, hhigh, low, hlow, -, hescape⟩
  · simpa [hescape] using ⟨hbackslash, hquote⟩
  · simpa [hescape] using hbackslash
  · simpa [hescape] using hprintable
  · simpa [hescape] using ⟨hbackslash, hx, (isPrintable_digitChar high hhigh).1,
      (isPrintable_digitChar low hlow).1⟩

end ByteLiteral

end Text

end BinaryLayout
