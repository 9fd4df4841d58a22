import BinaryLayout.Helper
import BinaryLayout.Proofs.CanonicalName
import Mathlib

/-!
# Keys Determine Helpers

Two kinds with the same key have the same code in a helper, so an array helper may be named after the
key of its element. Keys are not injective: counts that the limit makes equal have equal keys, and so
have all counts that come from a sibling. Where the choices, names or bytes of a kind enter its key
through a checksum, the checksums are assumed to differ.
-/

namespace BinaryLayout

/-- The text in front of the first separator and the text behind it are determined by the whole. -/
theorem split_separator {separator : Char} {front front' back back' : List Char}
    (hfront : separator ∉ front) (hfront' : separator ∉ front')
    (hsame : front ++ separator :: back = front' ++ separator :: back') :
    front = front' ∧ back = back' := by
  have htake (text rest : List Char) (htext : separator ∉ text) :
      (text ++ separator :: rest).takeWhile (· != separator) = text := by
    rw [List.takeWhile_append_of_pos]
    · simp
    · intro character hcharacter
      simpa using fun heq : character = separator ↦ htext (heq ▸ hcharacter)
  have hequal : front = front' := by
    rw [← htake front back hfront, hsame, htake front' back' hfront']
  subst hequal
  simpa using hsame

theorem toList_toString_nat (number : Nat) : (toString number).toList = Nat.toDigits 10 number := by
  rw [Nat.toString_eq_repr, Nat.repr, String.toList_ofList]

theorem notMem_toString_nat {character : Char} (hcharacter : character.isDigit = false)
    (number : Nat) : character ∉ (toString number).toList := by
  rw [toList_toString_nat]
  intro hmem
  have hdigit := Nat.isDigit_of_mem_toDigits (by decide) (by decide) hmem
  simp [hcharacter] at hdigit

theorem toString_nat_ne_dyn (number : Nat) : toString number ≠ "dyn" := by
  intro hsame
  have hmem : 'd' ∈ (toString number).toList := by simp [hsame]
  exact notMem_toString_nat (by decide) number hmem

theorem IntegerType.key_injective : Function.Injective IntegerType.key := by
  rintro ⟨width, signed⟩ ⟨width', signed'⟩
  cases width <;> cases signed <;> cases width' <;> cases signed' <;> decide

theorem IntegerType.underscore_notMem_key (type : IntegerType) : '_' ∉ type.key.toList := by
  obtain ⟨width, signed⟩ := type
  cases width <;> cases signed <;> decide

theorem BitField.key_injective : Function.Injective BitField.key := by
  intro field field' hkey
  have hlists := congrArg String.toList hkey
  simp only [BitField.key, String.toList_append, List.append_assoc, List.append_cancel_left_eq]
    at hlists
  obtain ⟨hwidth, hrest⟩ := split_separator (IntegerType.underscore_notMem_key _)
    (IntegerType.underscore_notMem_key _) hlists
  obtain ⟨hstart, hstop⟩ := split_separator (notMem_toString_nat (by decide) _)
    (notMem_toString_nat (by decide) _) hrest
  obtain ⟨start, stop, width⟩ := field
  obtain ⟨start', stop', width'⟩ := field'
  have hwidths := IntegerType.key_injective (String.toList_injective hwidth)
  have hstarts := Nat.repr_inj.mp (String.toList_injective hstart)
  have hstops := Nat.repr_inj.mp (String.toList_injective hstop)
  simp only [IntegerType.unsigned, IntegerType.mk.injEq, and_true] at hwidths
  simp only [BitField.mk.injEq]
  exact ⟨Fin.ext hstarts, Fin.ext hstops, hwidths⟩

namespace Kind

def leaf : Kind → Kind
  | .array _ element | .pointer element => element.leaf
  | kind => kind

/-- Whether the parameters of a kind enter its key through a checksum. -/
def isHashed : Kind → Bool
  | .enumeration _ | .flags _ | .signature _ => true
  | _ => false

/-- A structure at the bottom of the kind is called by a canonical name that is an identifier. -/
def IsNamed (kind : Kind) : Prop :=
  ∀ target, kind.leaf = .reference target →
    Name.isIdentifier target = true ∧ ∃ name, target = Name.canonical name

def form : Kind → Nat
  | .integer _ => 0
  | .bitField _ => 1
  | .enumeration _ => 2
  | .flags _ => 3
  | .signature _ => 4
  | .text _ _ => 5
  | .array _ _ => 6
  | .pointer _ => 7
  | .reference _ => 8

def formOfKey : List Char → Nat
  | 'u' :: 'i' :: _ | 'i' :: _ => 0
  | 'b' :: _ => 1
  | 'e' :: _ => 2
  | 'f' :: _ => 3
  | 's' :: 'i' :: _ => 4
  | 's' :: 't' :: _ | 'u' :: 't' :: _ => 5
  | 'a' :: _ => 6
  | 'p' :: _ => 7
  | _ => 8

theorem formOfKey_of_not_lower {text : List Char}
    (htext : ∀ head ∈ text.head?, head.isLower = false) : formOfKey text = 8 := by
  unfold formOfKey
  split <;> simp_all [Char.isLower]

theorem formOfKey_key (options : Options) {kind : Kind} (hnamed : kind.IsNamed) :
    formOfKey (kind.key options).toList = kind.form := by
  cases kind with
  | integer type =>
    obtain ⟨width, signed⟩ := type
    cases signed <;> simp [key, IntegerType.key, formOfKey, form]
  | bitField field => simp [key, BitField.key, formOfKey, form]
  | enumeration choices => simp [key, Enumeration.key, formOfKey, form]
  | flags names => simp [key, Flags.key, formOfKey, form]
  | signature expected => simp [key, formOfKey, form]
  | text encoding length =>
    cases encoding <;> cases length <;> simp [key, Encoding.key, formOfKey, form]
  | array count element => simp [key, formOfKey, form]
  | pointer element => simp [key, formOfKey, form]
  | reference target =>
    obtain ⟨-, name, rfl⟩ := hnamed target rfl
    exact formOfKey_of_not_lower fun head hhead ↦ Name.canonical_head_not_lower hhead

theorem form_eq_of_key_eq {options : Options} {first second : Kind} (hfirst : first.IsNamed)
    (hsecond : second.IsNamed) (hkey : first.key options = second.key options) :
    first.form = second.form := by
  rw [← formOfKey_key options hfirst, hkey, formOfKey_key options hsecond]

/-! ## Code in helpers -/

/-- Two kinds that a helper cannot tell apart: as elements of an array they have the same code. -/
structure SameCode (options : Options) (first second : Kind) : Prop where
  types : first.typeParts = second.typeParts
  sizes : ∀ value offset, first.sizeParts value offset = second.sizeParts value offset
  decoding : first.decodeCode options .helper = second.decodeCode options .helper

theorem SameCode.refl (options : Options) (kind : Kind) : SameCode options kind kind :=
  ⟨rfl, fun _ _ ↦ rfl, rfl⟩

theorem countText_eq_of_key_eq {options : Options} {first second : Count}
    (hkey : first.key options = second.key options) :
    countText options .helper first = countText options .helper second := by
  cases first with
  | fixed count =>
    cases second with
    | fixed count' => exact hkey
    | sibling field => exact absurd hkey (toString_nat_ne_dyn _)
  | sibling field =>
    cases second with
    | fixed count => exact absurd hkey.symm (toString_nat_ne_dyn _)
    | sibling field' => rfl

theorem SameCode.array {options : Options} {first second : Kind} {count count' : Count}
    (hcode : SameCode options first second) (hkey : first.key options = second.key options)
    (hcount : count.key options = count'.key options) :
    SameCode options (.array count first) (.array count' second) where
  types := by simp only [typeParts, hcode.types]
  sizes value offset := by simp only [sizeParts, hcode.sizes]
  decoding := by simp only [decodeCode, arrayReader, hkey, countText_eq_of_key_eq hcount]

theorem SameCode.pointer {options : Options} {first second : Kind}
    (hcode : SameCode options first second) :
    SameCode options (.pointer first) (.pointer second) where
  types := hcode.types
  sizes _ _ := rfl
  decoding := by simp only [decodeCode, hcode.decoding]

theorem underscore_notMem_count_key (options : Options) (count : Count) :
    '_' ∉ (count.key options).toList := by
  cases count with
  | fixed count => exact notMem_toString_nat (by decide) _
  | sibling field => simp [Count.key]

/-- The count and the element of an array are read off its key. -/
theorem key_array_inj {options : Options} {count count' : Count} {first second : Kind}
    (hkey : (Kind.array count first).key options = (Kind.array count' second).key options) :
    count.key options = count'.key options ∧ first.key options = second.key options := by
  have hlists := congrArg String.toList hkey
  simp only [key, String.toList_append, List.append_assoc, List.append_cancel_left_eq] at hlists
  obtain ⟨hcount, helement⟩ := split_separator (underscore_notMem_count_key options count)
    (underscore_notMem_count_key options count') hlists
  exact ⟨String.toList_injective hcount, String.toList_injective helement⟩

theorem text_eq_of_key_eq {options : Options} {encoding encoding' : Encoding}
    {length length' : Option UInt64}
    (hkey : (Kind.text encoding length).key options = (Kind.text encoding' length').key options) :
    Kind.text encoding length = Kind.text encoding' length' := by
  have hlists := congrArg String.toList hkey
  cases encoding <;> cases encoding' <;> cases length <;> cases length' <;>
    simp [key, Encoding.key] at hlists ⊢
  all_goals exact UInt64.toNat_inj.mp (Nat.repr_inj.mp (congrArg String.ofList hlists))

/-- Two kinds whose parameters are hashed do not share a key. -/
def KeysApart (options : Options) (first second : Kind) : Prop :=
  first.isHashed → second.isHashed → first.key options = second.key options → first = second

/-- A kind without an element is determined by its key. -/
theorem eq_of_key_eq_of_leaf {options : Options} {first second : Kind}
    (hleaf : first.element? = none) (hfirst : first.IsNamed) (hsecond : second.IsNamed)
    (hapart : KeysApart options first.leaf second.leaf)
    (hkey : first.key options = second.key options) : first = second := by
  have hform := form_eq_of_key_eq hfirst hsecond hkey
  cases first with
  | integer type =>
    cases second <;> simp only [form, reduceCtorEq] at hform
    exact congrArg Kind.integer (IntegerType.key_injective hkey)
  | bitField field =>
    cases second <;> simp only [form, reduceCtorEq, Nat.reduceEqDiff] at hform
    exact congrArg Kind.bitField (BitField.key_injective hkey)
  | enumeration choices =>
    cases second <;> simp only [form, reduceCtorEq, Nat.reduceEqDiff] at hform
    exact hapart rfl rfl hkey
  | flags names =>
    cases second <;> simp only [form, reduceCtorEq, Nat.reduceEqDiff] at hform
    exact hapart rfl rfl hkey
  | signature expected =>
    cases second <;> simp only [form, reduceCtorEq, Nat.reduceEqDiff] at hform
    exact hapart rfl rfl hkey
  | text encoding length =>
    cases second <;> simp only [form, reduceCtorEq, Nat.reduceEqDiff] at hform
    exact text_eq_of_key_eq hkey
  | reference target =>
    cases second <;> simp only [form, reduceCtorEq, Nat.reduceEqDiff] at hform
    exact congrArg Kind.reference hkey
  | array count element => simp [element?] at hleaf
  | pointer element => simp [element?] at hleaf

/-- Kinds with the same key have the same code in helpers. The induction follows the element, through
arrays and pointers to the leaf. -/
theorem SameCode.of_key_eq {options : Options} : ∀ {first second : Kind}, first.IsNamed →
    second.IsNamed → KeysApart options first.leaf second.leaf →
    first.key options = second.key options → SameCode options first second := by
  intro first
  induction first with
  | array count element ih =>
    intro second hfirst hsecond hapart hkey
    have hform := form_eq_of_key_eq hfirst hsecond hkey
    cases second <;> simp only [form, reduceCtorEq, Nat.reduceEqDiff] at hform
    rename_i count' element'
    obtain ⟨hcount, helement⟩ := key_array_inj hkey
    exact SameCode.array (ih hfirst hsecond hapart helement) helement hcount
  | pointer element ih =>
    intro second hfirst hsecond hapart hkey
    have hform := form_eq_of_key_eq hfirst hsecond hkey
    cases second <;> simp only [form, reduceCtorEq, Nat.reduceEqDiff] at hform
    rename_i element'
    have helement : element.key options = element'.key options := by
      simpa [key] using hkey
    exact SameCode.pointer (ih hfirst hsecond hapart helement)
  | _ =>
    intro second hfirst hsecond hapart hkey
    rw [← eq_of_key_eq_of_leaf rfl hfirst hsecond hapart hkey]
    exact SameCode.refl options _

def formOfIdentity : List Char → Nat
  | 'p' :: _ :: _ :: _ :: _ :: _ :: 'a' :: _ => 6
  | 'p' :: _ => 0
  | 'E' :: _ => 2
  | 'F' :: _ => 3
  | 'S' :: 'i' :: _ => 4
  | _ => 5

theorem formOfIdentity_identity {options : Options} {kind : Kind} {identity : String}
    (hidentity : kind.identity? options = some identity) :
    formOfIdentity identity.toList = kind.form := by
  cases kind with
  | integer type =>
    obtain ⟨width, signed⟩ := type
    obtain rfl : _ = identity := Option.some.inj hidentity
    cases signed <;> simp [IntegerType.reader, IntegerType.key, formOfIdentity, form]
  | text encoding length =>
    cases encoding <;> obtain rfl : _ = identity := Option.some.inj hidentity <;>
      simp [formOfIdentity, form]
  | array count element =>
    obtain rfl : _ = identity := Option.some.inj hidentity
    simp [arrayReader, formOfIdentity, form]
  | bitField field => simp [identity?] at hidentity
  | pointer element => simp [identity?] at hidentity
  | reference target => simp [identity?] at hidentity
  | _ =>
    obtain rfl : _ = identity := Option.some.inj hidentity
    simp [formOfIdentity, form]

theorem arrayCode_eq_of_sameCode {options : Options} {first second : Kind}
    (hcode : SameCode options first second) (hkey : first.key options = second.key options) :
    Helper.arrayCode options first = Helper.arrayCode options second := by
  simp only [Helper.arrayCode, arrayReader, hkey, hcode.types, hcode.sizes, hcode.decoding]

/-- Kinds that share an identity share the text of their helper, so it does not matter which of them
is recorded first. -/
theorem helperCode_eq_of_identity_eq {options : Options} {first second : Kind} {identity : String}
    (hfirst : first.IsNamed) (hsecond : second.IsNamed)
    (hapart : KeysApart options first.leaf second.leaf)
    (hidentity : first.identity? options = some identity)
    (hidentity' : second.identity? options = some identity) :
    first.helperCode options = second.helperCode options := by
  -- The form is read back from the identity, which leaves one case for each constructor.
  have hform : first.form = second.form := by
    rw [← formOfIdentity_identity hidentity, formOfIdentity_identity hidentity']
  cases first with
  | integer type =>
    cases second <;> simp only [form, reduceCtorEq] at hform
    rename_i type'
    have hkey : type.key = type'.key := by
      simpa [identity?, IntegerType.reader] using hidentity.trans hidentity'.symm
    rw [IntegerType.key_injective hkey]
  | enumeration choices =>
    cases second <;> simp only [form, reduceCtorEq, Nat.reduceEqDiff] at hform
    rfl
  | flags names =>
    cases second <;> simp only [form, reduceCtorEq, Nat.reduceEqDiff] at hform
    rfl
  | signature expected =>
    cases second <;> simp only [form, reduceCtorEq, Nat.reduceEqDiff] at hform
    rfl
  | text encoding length =>
    cases second <;> simp only [form, reduceCtorEq, Nat.reduceEqDiff] at hform
    rename_i encoding' length'
    have hsame := hidentity.trans hidentity'.symm
    obtain rfl : encoding = encoding' := by
      cases encoding <;> cases encoding' <;> simp [identity?] at hsame ⊢
    cases encoding <;> rfl
  | array count element =>
    cases second <;> simp only [form, reduceCtorEq, Nat.reduceEqDiff] at hform
    rename_i count' element'
    have hkey : element.key options = element'.key options := by
      simpa [identity?, arrayReader] using hidentity.trans hidentity'.symm
    exact arrayCode_eq_of_sameCode (SameCode.of_key_eq hfirst hsecond hapart hkey) hkey
  | bitField field => simp [identity?] at hidentity
  | pointer element => simp [identity?] at hidentity
  | reference target => simp [identity?] at hidentity

end Kind

end BinaryLayout
