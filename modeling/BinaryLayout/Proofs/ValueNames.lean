import BinaryLayout.Kind.Code
import BinaryLayout.Proofs.CountScope
import BinaryLayout.Proofs.OrderedMap
import Mathlib

/-!
# Names of Values

An enumeration names a value by one of at most two keys: the negative key with the same bits, if there
is one, and else the value itself. This is because keys enter in increasing order and the first name
for a value stays. A set of flags names all bits and masks that meet the value, and putting these in
order neither loses nor adds any.
-/

namespace BinaryLayout

namespace Width

theorem cardinality_eq (width : Width) : width.cardinality = 2 ^ width.bits := rfl

theorem two_pow_bits (width : Width) : (2 : Int) ^ width.bits = 2 * 2 ^ (width.bits - 1) := by
  cases width <;> rfl

/-- The keys that stand for a value: the value itself, and if its highest bit is set the negative number
with the same bits. -/
theorem reinterpret_eq_some_iff (width : Width) (key : Int) (value : UInt64) :
    width.reinterpret key = some value ↔
      value.toNat < 2 ^ width.bits ∧
        (2 ^ (width.bits - 1) ≤ value.toNat ∧ key = value.toNat - 2 ^ width.bits ∨
          key = value.toNat) := by
  have hvalue := value.toNat_lt
  unfold reinterpret
  simp only [Option.ite_none_right_eq_some, Option.some_inj, ← UInt64.toNat_inj, Nat.toUInt64_eq,
    UInt64.toNat_ofNat']
  cases width <;> simp only [cardinality_eq, bits, bytes] <;> norm_num <;> omega

end Width

/-- The choices of an enumeration are a map, and its keys are signed 64-bit integers. -/
structure Enumeration.IsMap (enumeration : Enumeration) : Prop where
  increasing : Ordered.Increasing enumeration.choices
  bounded : ∀ choice ∈ enumeration.choices, -2 ^ 63 ≤ choice.1 ∧ choice.1 < 2 ^ 63

namespace Enumeration

theorem arms_eq (enumeration : Enumeration) :
    enumeration.arms = enumeration.choices.foldl (fun arms choice ↦
      (enumeration.width.reinterpret choice.1).elim arms fun value ↦
        Ordered.insertNew value choice.2 arms) [] := by
  unfold arms
  congr 1
  funext arms choice
  cases hvalue : enumeration.width.reinterpret choice.1 <;> simp [hvalue]

/-- The choices enter one after another, and a name that is there stays. -/
theorem lookup_foldl_arms (width : Width) (choices : List (Int × String)) :
    ∀ {arms : List (UInt64 × String)}, Ordered.Increasing arms →
      let after := choices.foldl (fun arms choice ↦
        (width.reinterpret choice.1).elim arms fun value ↦
          Ordered.insertNew value choice.2 arms) arms
      Ordered.Increasing after ∧ ∀ value, after.lookup value = (arms.lookup value).or
        ((choices.find? fun choice ↦ width.reinterpret choice.1 = some value).map Prod.snd) := by
  induction choices with
  | nil =>
    intro arms harms
    exact ⟨harms, by simp⟩
  | cons choice rest ih =>
    intro arms harms
    cases hvalue : width.reinterpret choice.1 with
    | none =>
      simpa [hvalue] using ih harms
    | some value =>
      obtain ⟨hafter, hlookup⟩ := ih (harms.insertNew value choice.2)
      simp only [List.foldl_cons, hvalue, Option.elim_some]
      refine ⟨hafter, ?_⟩
      intro other
      rw [hlookup, harms.lookup_insertNew, List.find?_cons, hvalue]
      by_cases hsame : other = value
      · subst hsame
        simp
      · simp [hsame, Ne.symm hsame]

theorem increasing_arms (enumeration : Enumeration) : Ordered.Increasing enumeration.arms := by
  rw [arms_eq]
  exact (lookup_foldl_arms enumeration.width enumeration.choices List.Pairwise.nil).1

/-- The name of a value is that of the first choice that stands for it. -/
theorem lookup_arms (enumeration : Enumeration) (value : UInt64) :
    enumeration.arms.lookup value = (enumeration.choices.find? fun choice ↦
      enumeration.width.reinterpret choice.1 = some value).map Prod.snd := by
  rw [arms_eq, (lookup_foldl_arms enumeration.width enumeration.choices List.Pairwise.nil).2]
  simp

/-- A value is named by the negative key with the same bits, and else by itself. -/
theorem IsMap.lookup_arms {enumeration : Enumeration} (hmap : enumeration.IsMap) {value : UInt64}
    (hvalue : value.toNat < 2 ^ enumeration.width.bits) :
    enumeration.arms.lookup value =
      (if 2 ^ (enumeration.width.bits - 1) ≤ value.toNat then
        enumeration.choices.lookup ((value.toNat : Int) - 2 ^ enumeration.width.bits) else none).or
      (enumeration.choices.lookup (value.toNat : Int)) := by
  rw [Enumeration.lookup_arms]
  simp only [Width.reinterpret_eq_some_iff, hvalue, true_and]
  split
  · rename_i hhigh
    simp only [hhigh, true_and]
    apply hmap.increasing.find?_two_keys
    apply Int.compare_eq_lt.mpr
    have hpower : (0 : Int) < 2 ^ enumeration.width.bits := by positivity
    omega
  · rename_i hlow
    simp only [hlow, false_and, false_or, Option.none_or]
    exact Ordered.find?_key_eq _ _

/-- No key is past 63 bits. -/
theorem IsMap.lookup_eq_none {enumeration : Enumeration} (hmap : enumeration.IsMap) {key : Int}
    (hkey : 2 ^ 63 ≤ key) : enumeration.choices.lookup key = none := by
  apply List.lookup_eq_none_iff.mpr
  intro choice hchoice
  apply bne_iff_ne.mpr
  have hbounds := hmap.bounded choice hchoice
  omega

theorem toNat_lt_of_mem_arms {enumeration : Enumeration} {arm : UInt64 × String}
    (harm : arm ∈ enumeration.arms) : arm.1.toNat < 2 ^ enumeration.width.bits := by
  have hfound := Ordered.lookup_eq_some_of_mem enumeration.increasing_arms.nodup_keys harm
  rw [lookup_arms, Option.map_eq_some_iff] at hfound
  obtain ⟨choice, hchoice, -⟩ := hfound
  have hvalue := List.find?_some hchoice
  exact ((Width.reinterpret_eq_some_iff _ _ _).mp (of_decide_eq_true hvalue)).1

end Enumeration

theorem toDigits_sixteen_injective : Function.Injective (Nat.toDigits 16) := by
  have hdigit : ∀ low < 16, ∀ high < 16, Nat.digitChar low = Nat.digitChar high → low = high := by
    decide
  have hsingle (number : Nat) : (Nat.toDigits 16 number).length ≤ 1 ↔ number < 16 :=
    Nat.length_toDigits_le_iff (by decide) (by decide)
  intro first
  induction first using Nat.strong_induction_on with
  | _ first ih =>
    intro second hdigits
    have hlength : first < 16 ↔ second < 16 := by rw [← hsingle, ← hsingle, hdigits]
    by_cases hsmall : first < 16
    · rw [Nat.toDigits_of_lt_base hsmall, Nat.toDigits_of_lt_base (hlength.mp hsmall)] at hdigits
      exact hdigit _ hsmall _ (hlength.mp hsmall) (List.singleton_inj.mp hdigits)
    · have hfirst := Nat.toDigits_of_base_le (by decide) (not_lt.mp hsmall)
      have hsecond := Nat.toDigits_of_base_le (by decide) (not_lt.mp (hlength.not.mp hsmall))
      rw [hfirst, hsecond] at hdigits
      obtain ⟨hfront, hlast⟩ := List.append_inj' hdigits rfl
      have hquotient : first / 16 = second / 16 := ih _ (by omega) hfront
      have hremainder := hdigit _ (Nat.mod_lt first (by decide)) _ (Nat.mod_lt second (by decide))
        (List.singleton_inj.mp hlast)
      omega

/-- Different numbers are written differently. -/
theorem hex_injective : Function.Injective hex := by
  intro first second htext
  have hdigits := congrArg String.toList htext
  simp only [hex, String.toList_append, String.toList_ofList] at hdigits
  exact toDigits_sixteen_injective (List.append_cancel_left hdigits)

namespace Decoder

theorem toNat_word (decoder : Decoder) (width : Width) (offset : UInt64) :
    (decoder.word width offset).toNat = decoder.raw width offset := by
  have hraw := decoder.raw_lt width offset
  have hwidth : width.cardinality ≤ UInt64.size := by cases width <;> decide
  rw [word, Nat.toUInt64_eq, UInt64.toNat_ofNat_of_lt' (hraw.trans_le hwidth)]

theorem toNat_word_lt (decoder : Decoder) (width : Width) (offset : UInt64) :
    (decoder.word width offset).toNat < 2 ^ width.bits := by
  rw [toNat_word, ← Width.cardinality_eq]
  exact decoder.raw_lt width offset

theorem nameOf_eq {enumeration : Enumeration} (hmap : enumeration.IsMap) {value : UInt64}
    (hvalue : value.toNat < 2 ^ enumeration.width.bits) :
    nameOf enumeration value =
      ((if 2 ^ (enumeration.width.bits - 1) ≤ value.toNat then
          enumeration.choices.lookup ((value.toNat : Int) - 2 ^ enumeration.width.bits)
        else none).or
        (if value.toNat < 2 ^ 63 then enumeration.choices.lookup (value.toNat : Int)
        else none)).getD "Unknown" := by
  rw [nameOf, hmap.lookup_arms hvalue]
  by_cases hfits : value.toNat < 2 ^ 63
  · rw [if_pos hfits]
  · have hpast : enumeration.choices.lookup (value.toNat : Int) = none :=
      hmap.lookup_eq_none (by omega)
    rw [if_neg hfits, hpast]

/-- Keys outside the range of the width do not matter. -/
theorem nameOf_congr {first second : Enumeration} (hfirst : first.IsMap) (hsecond : second.IsMap)
    (hwidth : first.width = second.width)
    (hagree : ∀ key, -2 ^ (second.width.bits - 1) ≤ key → key < 2 ^ second.width.bits →
      first.choices.lookup key = second.choices.lookup key)
    {value : UInt64} (hvalue : value.toNat < 2 ^ second.width.bits) :
    nameOf first value = nameOf second value := by
  have hbelow : (value.toNat : Int) < 2 ^ second.width.bits := by exact_mod_cast hvalue
  have hhalf := second.width.two_pow_bits
  have hpositive := hagree value.toNat (by omega) hbelow
  rw [nameOf_eq hfirst (hwidth ▸ hvalue), nameOf_eq hsecond hvalue, hwidth, hpositive]
  by_cases hhigh : 2 ^ (second.width.bits - 1) ≤ value.toNat
  · have habove : (2 : Int) ^ (second.width.bits - 1) ≤ value.toNat := by exact_mod_cast hhigh
    rw [hagree (value.toNat - 2 ^ second.width.bits) (by omega) (by omega)]
  · rw [if_neg hhigh, if_neg hhigh]

/-- A negative key names its value, whatever the other keys are. -/
theorem nameOf_of_negative {enumeration : Enumeration} (hmap : enumeration.IsMap) {key : Int}
    {name : String} (hchoice : (key, name) ∈ enumeration.choices)
    (hleast : -2 ^ (enumeration.width.bits - 1) ≤ key) (hnegative : key < 0) {value : UInt64}
    (hvalue : (value.toNat : Int) = key + 2 ^ enumeration.width.bits) :
    nameOf enumeration value = name := by
  have hhalf := enumeration.width.two_pow_bits
  have hbelow : value.toNat < 2 ^ enumeration.width.bits := by
    have hless : (value.toNat : Int) < 2 ^ enumeration.width.bits := by omega
    exact_mod_cast hless
  have habove : 2 ^ (enumeration.width.bits - 1) ≤ value.toNat := by
    have hmore : (2 : Int) ^ (enumeration.width.bits - 1) ≤ value.toNat := by omega
    exact_mod_cast hmore
  have hkey : (value.toNat : Int) - 2 ^ enumeration.width.bits = key := by omega
  rw [nameOf_eq hmap hbelow, if_pos habove, hkey,
    Ordered.lookup_eq_some_of_mem hmap.increasing.nodup_keys hchoice]
  rfl

theorem hex_arms_nodup (enumeration : Enumeration) :
    (enumeration.arms.map fun arm ↦ hex arm.1.toNat).Nodup := by
  rw [List.Nodup, List.pairwise_map]
  apply enumeration.increasing_arms.imp
  intro first second hless htext
  have hsame := UInt64.toNat_inj.mp (hex_injective htext)
  rw [hsame] at hless
  simp at hless

structure Enumerates (decoder : Decoder) (enumeration : Enumeration) (offset : UInt64) : Prop where
  /-- The value is the number that is read. Its name is that of the negative key with the same bits,
  else that of the key that is the number, else `Unknown`. -/
  named :
    let bits := enumeration.width.bits
    let raw := decoder.raw enumeration.width offset
    let negative :=
      if 2 ^ (bits - 1) ≤ raw then enumeration.choices.lookup ((raw : Int) - 2 ^ bits) else none
    let positive := if raw < 2 ^ 63 then enumeration.choices.lookup (raw : Int) else none
    ∃ word, word.toNat = raw ∧ decoder.value (.enumeration enumeration) offset =
      .enumeration word ((negative.or positive).getD "Unknown")
  /-- Keys that are no value of the width have no influence. -/
  ranged : ∀ other : Enumeration, other.IsMap → other.width = enumeration.width →
    (∀ key, -2 ^ (enumeration.width.bits - 1) ≤ key → key < 2 ^ enumeration.width.bits →
      other.choices.lookup key = enumeration.choices.lookup key) →
    decoder.value (.enumeration other) offset = decoder.value (.enumeration enumeration) offset
  /-- A negative key comes before the positive one. -/
  negative : ∀ key name, (key, name) ∈ enumeration.choices →
    -2 ^ (enumeration.width.bits - 1) ≤ key → key < 0 →
    decoder.raw enumeration.width offset = key + 2 ^ enumeration.width.bits →
    ∃ word, decoder.value (.enumeration enumeration) offset = .enumeration word name
  /-- The values for which the code has a name are different, also as they are written, and fit the
  width. -/
  increasing : enumeration.arms.Pairwise fun first second ↦ first.1 < second.1
  apart : (enumeration.arms.map fun arm ↦ hex arm.1.toNat).Nodup
  fits : ∀ arm ∈ enumeration.arms, arm.1.toNat < 2 ^ enumeration.width.bits

theorem enumerates_of_isMap (decoder : Decoder) {enumeration : Enumeration}
    (hmap : enumeration.IsMap) (offset : UInt64) : decoder.Enumerates enumeration offset := by
  have hraw : (decoder.word enumeration.width offset).toNat = decoder.raw enumeration.width offset :=
    decoder.toNat_word _ _
  have hword := decoder.toNat_word_lt enumeration.width offset
  constructor
  case named =>
    intro bits raw negative positive
    refine ⟨decoder.word enumeration.width offset, hraw, ?_⟩
    have hname : nameOf enumeration (decoder.word enumeration.width offset) =
        (negative.or positive).getD "Unknown" := by
      rw [nameOf_eq hmap hword, hraw]
    rw [← hname]
    rfl
  case ranged =>
    intro other hother hwidth hagree
    show Value.enumeration (decoder.word other.width offset)
      (nameOf other (decoder.word other.width offset)) = _
    rw [hwidth, nameOf_congr hother hmap hwidth hagree hword]
    rfl
  case negative =>
    intro key name hchoice hleast hnegative hkey
    refine ⟨decoder.word enumeration.width offset, ?_⟩
    have hname : nameOf enumeration (decoder.word enumeration.width offset) = name :=
      nameOf_of_negative hmap hchoice hleast hnegative (by rw [hraw, hkey])
    rw [← hname]
    rfl
  case increasing => exact enumeration.increasing_arms.imp Std.compare_eq_lt.mp
  case apart => exact hex_arms_nodup enumeration
  case fits => exact fun arm harm ↦ Enumeration.toNat_lt_of_mem_arms harm

end Decoder

/-! ## Flags -/

namespace Flags

theorem precedes_iff (first second : UInt64 × String) :
    precedes first second = true ↔
      first.1 < second.1 ∨ first.1 = second.1 ∧ first.2 ≤ second.2 := by
  simp [precedes]

theorem precedes_trans (first second third : UInt64 × String) (hfirst : precedes first second = true)
    (hsecond : precedes second third = true) : precedes first third = true := by
  rw [precedes_iff] at *
  rcases hfirst with hless | ⟨hsame, hname⟩
  · rcases hsecond with hless' | ⟨hsame', -⟩
    · exact .inl (UInt64.lt_trans hless hless')
    · exact .inl (hsame' ▸ hless)
  · rcases hsecond with hless' | ⟨hsame', hname'⟩
    · exact .inl (hsame ▸ hless')
    · exact .inr ⟨hsame.trans hsame', String.le_trans hname hname'⟩

theorem precedes_total (first second : UInt64 × String) :
    (precedes first second || precedes second first) = true := by
  rw [Bool.or_eq_true, precedes_iff, precedes_iff]
  rcases Nat.lt_trichotomy first.1.toNat second.1.toNat with hless | hsame | hless
  · exact .inl (.inl (UInt64.lt_iff_toNat_lt.mpr hless))
  · have hmask := UInt64.toNat_inj.mp hsame
    rcases String.le_total first.2 second.2 with hname | hname
    · exact .inl (.inr ⟨hmask, hname⟩)
    · exact .inr (.inr ⟨hmask.symm, hname⟩)
  · exact .inr (.inl (UInt64.lt_iff_toNat_lt.mpr hless))

theorem pairwise_predicates (flags : Flags) :
    flags.predicates.Pairwise fun first second ↦
      first.1 < second.1 ∨ first.1 = second.1 ∧ first.2 ≤ second.2 := by
  apply (List.pairwise_mergeSort precedes_trans precedes_total _).imp
  intro first second hprecedes
  exact (precedes_iff first second).mp hprecedes

theorem toNat_one_shiftLeft {position : UInt64} (hposition : position < 64) :
    ((1 : UInt64) <<< position).toNat = 2 ^ position.toNat := by
  have hlow : position.toNat < 64 := UInt64.lt_iff_toNat_lt.mp hposition
  have hpower : 2 ^ position.toNat < 2 ^ 64 := Nat.pow_lt_pow_right (by decide) hlow
  rw [UInt64.toNat_shiftLeft, Nat.mod_eq_of_lt hlow, Nat.shiftLeft_eq]
  exact (Nat.mod_eq_of_lt (by simpa using hpower)).trans (by simp)

theorem predicates_perm (flags : Flags) :
    flags.predicates.Perm
      ((flags.bitmap.filterMap fun entry : String × UInt64 ↦
        if entry.2 < 64 then some ((1 : UInt64) <<< entry.2, entry.1) else none) ++
        flags.maskmap.map Prod.swap) :=
  List.mergeSort_perm _ _

/-- Putting the masks in order keeps each as often as it is given. -/
theorem count_predicates (flags : Flags) (mask : UInt64) (name : String) :
    flags.predicates.count (mask, name) =
      (flags.bitmap.countP fun entry ↦
        entry.1 = name ∧ entry.2.toNat < 64 ∧ mask.toNat = 2 ^ entry.2.toNat) +
      flags.maskmap.count (name, mask) := by
  rw [flags.predicates_perm.count_eq, List.count_append, List.count_filterMap]
  congr 1
  · apply List.countP_congr
    intro entry _
    have hposition : entry.2 < 64 ↔ entry.2.toNat < 64 := UInt64.lt_iff_toNat_lt
    by_cases hlow : entry.2 < 64
    · have hmask : (1 : UInt64) <<< entry.2 = mask ↔ mask.toNat = 2 ^ entry.2.toNat := by
        rw [← UInt64.toNat_inj, toNat_one_shiftLeft hlow, eq_comm]
      simp [hlow, hmask, hposition.mp hlow, and_comm]
    · simp [hlow, mt hposition.mpr hlow]
  · exact List.count_map_of_injective flags.maskmap Prod.swap Prod.swap_injective (name, mask)

theorem mem_predicates (flags : Flags) (mask : UInt64) (name : String) :
    (mask, name) ∈ flags.predicates ↔
      (∃ position, (name, position) ∈ flags.bitmap ∧ position < 64 ∧
        mask = (1 : UInt64) <<< position) ∨ (name, mask) ∈ flags.maskmap := by
  rw [flags.predicates_perm.mem_iff, List.mem_append, List.mem_filterMap, List.mem_map]
  apply or_congr
  · constructor
    · rintro ⟨⟨other, position⟩, hentry, hmask⟩
      obtain ⟨hlow, hpair⟩ := Option.ite_none_right_eq_some.mp hmask
      obtain ⟨rfl, rfl⟩ := Prod.mk.inj (Option.some_inj.mp hpair)
      exact ⟨position, hentry, hlow, rfl⟩
    · rintro ⟨position, hentry, hlow, rfl⟩
      exact ⟨(name, position), hentry, by simp [hlow]⟩
  · constructor
    · rintro ⟨entry, hentry, hswap⟩
      obtain rfl : entry = (name, mask) := Prod.swap_injective hswap
      exact hentry
    · intro hentry
      exact ⟨(name, mask), hentry, rfl⟩

end Flags

namespace Decoder

/-- A mask meets a value if they have a bit in common. -/
theorem and_ne_zero_iff
    (value mask : UInt64) : value &&& mask ≠ 0 ↔ value.toNat &&& mask.toNat ≠ 0 := by
  rw [Ne, ← UInt64.toNat_inj, UInt64.toNat_and]
  rfl

theorem and_one_shiftLeft_ne_zero_iff (value : UInt64) {position : UInt64} (hposition : position < 64) :
    value &&& (1 : UInt64) <<< position ≠ 0 ↔ value.toNat.testBit position.toNat := by
  rw [and_ne_zero_iff, Flags.toNat_one_shiftLeft hposition, Nat.and_two_pow]
  cases value.toNat.testBit position.toNat <;> simp

theorem mem_namesOf (flags : Flags) (value : UInt64) (name : String) :
    name ∈ namesOf flags value ↔ ∃ mask, (mask, name) ∈ flags.predicates ∧ value &&& mask ≠ 0 := by
  rw [namesOf, Ordered.mem_keys_ofList]
  simp

theorem pairwise_namesOf (flags : Flags) (value : UInt64) : (namesOf flags value).Pairwise (· < ·) := by
  rw [namesOf, List.pairwise_map]
  apply (Ordered.increasing_ofList _).imp
  intro first second hless
  exact compareOfLessAndEq_eq_lt.mp hless

/-- How flags are decoded. The value is the number that is read, and its names are those of the bits that
are set and of the masks with a bit that is set. The code asks for each mask entry and each bit below
64 once, also for equal ones, in the order of the masks and then of the names. -/
theorem value_flags (decoder : Decoder) (flags : Flags) (offset : UInt64) :
    let raw := decoder.raw flags.width offset
    (∃ word names, decoder.value (.flags flags) offset = .flags word names ∧ word.toNat = raw ∧
      names.Pairwise (· < ·) ∧
      ∀ name, name ∈ names ↔
        (∃ position, (name, position) ∈ flags.bitmap ∧ position.toNat < 64 ∧
          raw.testBit position.toNat) ∨
        ∃ mask, (name, mask) ∈ flags.maskmap ∧ raw &&& mask.toNat ≠ 0) ∧
    flags.predicates.Pairwise (fun first second ↦
      first.1 < second.1 ∨ first.1 = second.1 ∧ first.2 ≤ second.2) ∧
    (∀ mask name, flags.predicates.count (mask, name) =
      (flags.bitmap.countP fun entry ↦
        entry.1 = name ∧ entry.2.toNat < 64 ∧ mask.toNat = 2 ^ entry.2.toNat) +
      flags.maskmap.count (name, mask)) := by
  intro raw
  have hraw : (decoder.word flags.width offset).toNat = raw := decoder.toNat_word _ _
  refine ⟨⟨decoder.word flags.width offset, _, rfl, hraw, pairwise_namesOf flags _, ?_⟩,
    flags.pairwise_predicates, flags.count_predicates⟩
  intro name
  rw [mem_namesOf, ← hraw]
  constructor
  · rintro ⟨mask, hmask, hmeets⟩
    rcases (flags.mem_predicates mask name).mp hmask with ⟨position, hentry, hlow, rfl⟩ | hentry
    · exact .inl ⟨position, hentry, UInt64.lt_iff_toNat_lt.mp hlow,
        (and_one_shiftLeft_ne_zero_iff _ hlow).mp hmeets⟩
    · exact .inr ⟨mask, hentry, (and_ne_zero_iff _ _).mp hmeets⟩
  · rintro (⟨position, hentry, hposition, hbit⟩ | ⟨mask, hentry, hmeets⟩)
    · have hlow : position < 64 := UInt64.lt_iff_toNat_lt.mpr hposition
      exact ⟨_, (flags.mem_predicates _ name).mpr (.inl ⟨position, hentry, hlow, rfl⟩),
        (and_one_shiftLeft_ne_zero_iff _ hlow).mpr hbit⟩
    · exact ⟨mask, (flags.mem_predicates mask name).mpr (.inr hentry),
        (and_ne_zero_iff _ _).mpr hmeets⟩

end Decoder

end BinaryLayout
