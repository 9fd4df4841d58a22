import BinaryLayout.Proofs.TerminatedText

/-!
# Terminated UTF-16 Texts

The end of a terminated text is a double zero, looked for at every byte and not at every unit. The last
unit may have no high byte, and the zeros are then found one byte early; rounding up corrects this. Inside
the text the same happens where a unit without a high byte stands before one without a low byte, and
rounding up then cuts the text between the two. So a text is read to its end exactly if no two of its
units stand like this. Without a double zero the text takes all bytes that were read, and a byte that is
left over is no part of it.
-/

namespace BinaryLayout

namespace Text.Utf16

def low (unit : UInt16) : UInt8 :=
  unit.toUInt8

def high (unit : UInt16) : UInt8 :=
  (unit >>> 8).toUInt8

def unitBytes (order : ByteOrder) (unit : UInt16) : List UInt8 :=
  match order with
  | .littleEndian => [low unit, high unit]
  | .bigEndian => [high unit, low unit]

def bytes (order : ByteOrder) (units : List UInt16) : List UInt8 :=
  units.flatMap (unitBytes order)

@[simp]
theorem bytes_nil (order : ByteOrder) : bytes order [] = [] :=
  rfl

theorem bytes_cons (order : ByteOrder) (unit : UInt16) (rest : List UInt16) :
    bytes order (unit :: rest) = unitBytes order unit ++ bytes order rest :=
  rfl

@[simp]
theorem bytes_littleEndian_cons (unit : UInt16) (rest : List UInt16) :
    bytes .littleEndian (unit :: rest) = low unit :: high unit :: bytes .littleEndian rest :=
  rfl

@[simp]
theorem length_bytes (order : ByteOrder) (units : List UInt16) :
    (bytes order units).length = 2 * units.length := by
  induction units with
  | nil => rfl
  | cons unit rest ih =>
    have hunit : (unitBytes order unit).length = 2 := by cases order <;> rfl
    rw [bytes_cons, List.length_append, hunit, ih, List.length_cons]
    omega

theorem take_bytes (units : List UInt16) (count : Nat) :
    (bytes .littleEndian units).take (2 * count) = bytes .littleEndian (units.take count) := by
  induction units generalizing count with
  | nil => simp
  | cons unit rest ih =>
    cases count with
    | zero => rfl
    | succ count =>
      rw [Nat.mul_succ, bytes_littleEndian_cons, List.take_succ_cons, List.take_succ_cons, ih,
        List.take_succ_cons,
        bytes_littleEndian_cons]

theorem toNat_low (unit : UInt16) : (low unit).toNat = unit.toNat % 256 :=
  unit.toNat_toUInt8

theorem toNat_high (unit : UInt16) : (high unit).toNat = unit.toNat / 256 := by
  have hbound := unit.toNat_lt
  simp [high, Nat.shiftRight_eq_div_pow]
  omega

theorem toNat_unitOf (first second : UInt8) :
    (unitOf .littleEndian first second).toNat = first.toNat + 256 * second.toNat := by
  have hfirst := first.toNat_lt
  have hsecond := second.toNat_lt
  simp [unitOf]
  omega

theorem unitOf_low_high (unit : UInt16) : unitOf .littleEndian (low unit) (high unit) = unit := by
  apply UInt16.toNat_inj.mp
  rw [toNat_unitOf, toNat_low, toNat_high]
  omega

theorem low_unitOf (first second : UInt8) : low (unitOf .littleEndian first second) = first := by
  have hbound := first.toNat_lt
  apply UInt8.toNat_inj.mp
  rw [toNat_low, toNat_unitOf]
  omega

theorem high_unitOf (first second : UInt8) : high (unitOf .littleEndian first second) = second := by
  have hbound := first.toNat_lt
  apply UInt8.toNat_inj.mp
  rw [toNat_high, toNat_unitOf]
  omega

theorem high_eq_zero_iff (unit : UInt16) : high unit = 0 ↔ unit < 0x100 := by
  rw [← UInt8.toNat_inj, toNat_high, UInt16.lt_iff_toNat_lt]
  change unit.toNat / 256 = 0 ↔ unit.toNat < 256
  omega

theorem eq_unitOf {unit : UInt16} {first second : UInt8} (hlow : low unit = first)
    (hhigh : high unit = second) : unit = unitOf .littleEndian first second := by
  rw [← hlow, ← hhigh, unitOf_low_high]

theorem units_unitBytes_append (order : ByteOrder) (unit : UInt16) (tail : List UInt8) :
    Utf16.units order (unitBytes order unit ++ tail) = unit :: Utf16.units order tail := by
  have hunit := unitOf_low_high unit
  cases order with
  | littleEndian =>
    change unitOf .littleEndian (low unit) (high unit) :: Utf16.units .littleEndian tail = _
    rw [hunit]
  | bigEndian =>
    have hswap : unitOf .bigEndian (high unit) (low unit) = unitOf .littleEndian (low unit) (high unit) :=
      UInt16.add_comm _ _
    change unitOf .bigEndian (high unit) (low unit) :: Utf16.units .bigEndian tail = _
    rw [hswap, hunit]

/-- The bytes of units are read as these units, with what follows read on its own. -/
theorem units_bytes_append (order : ByteOrder) (units : List UInt16) (tail : List UInt8) :
    Utf16.units order (bytes order units ++ tail) = units ++ Utf16.units order tail := by
  induction units with
  | nil => rfl
  | cons unit rest ih =>
    rw [bytes_cons, List.append_assoc, units_unitBytes_append, ih, List.cons_append]

theorem units_bytes (order : ByteOrder) (units : List UInt16) :
    Utf16.units order (bytes order units) = units := by
  simpa [Utf16.units] using units_bytes_append order units []

/-- Whole units can be made of an even number of bytes. -/
theorem exists_bytes_eq (count : Nat) : ∀ {written : List UInt8}, written.length = 2 * count →
    ∃ units : List UInt16, units.length = count ∧ bytes .littleEndian units = written := by
  induction count with
  | zero =>
    intro written hlength
    exact ⟨[], rfl, (List.length_eq_zero_iff.mp hlength).symm⟩
  | succ count ih =>
    intro written hlength
    match written, hlength with
    | first :: second :: rest, hlength =>
      obtain ⟨units, hunits, rfl⟩ := ih (by simpa [Nat.mul_succ] using hlength)
      refine ⟨unitOf .littleEndian first second :: units, by simp [hunits], ?_⟩
      rw [bytes_littleEndian_cons, low_unitOf, high_unitOf]

def exchanged (unit : UInt16) : UInt16 :=
  unitOf .littleEndian (high unit) (low unit)

/-- The units behind a mark at the front, with their bytes in the order that it asks for. -/
def unmarked : List UInt16 → List UInt16
  | [] => []
  | unit :: rest =>
    if unit = 0xFEFF then rest.map exchanged
    else if unit = 0xFFFE then rest
    else unit :: rest

def ofUnits (units : List UInt16) : String :=
  String.ofList (characters (unmarked units))

theorem units_bigEndian_bytes (units : List UInt16) :
    Utf16.units .bigEndian (bytes .littleEndian units) = units.map exchanged := by
  induction units with
  | nil => rfl
  | cons unit rest ih =>
    rw [bytes_littleEndian_cons, Utf16.units, List.map_cons, ih]
    exact congrArg (· :: rest.map exchanged) (UInt16.add_comm _ _)

theorem split_of_ne {unit : UInt16} (hbig : unit ≠ 0xFEFF) (hlittle : unit ≠ 0xFFFE)
    (rest : List UInt8) :
    split (low unit :: high unit :: rest) = (.littleEndian, low unit :: high unit :: rest) := by
  unfold split
  split
  · rename_i hmark
    obtain ⟨hlow, hhigh, -⟩ : low unit = 0xFF ∧ high unit = 0xFE ∧ rest = _ := by simpa using hmark
    exact absurd (eq_unitOf hlow hhigh) hbig
  · rename_i hmark
    obtain ⟨hlow, hhigh, -⟩ : low unit = 0xFE ∧ high unit = 0xFF ∧ rest = _ := by simpa using hmark
    exact absurd (eq_unitOf hlow hhigh) hlittle
  · rfl

/-- Decoding the bytes of units gives their text. -/
theorem decode_bytes (units : List UInt16) : decode (bytes .littleEndian units) = ofUnits units := by
  cases units with
  | nil => rfl
  | cons unit rest =>
    have hlength : ¬ (bytes .littleEndian (unit :: rest)).length < 2 := by
      rw [length_bytes, List.length_cons]
      omega
    rw [decode, if_neg hlength, bytes_littleEndian_cons, ofUnits, unmarked]
    by_cases hbig : unit = 0xFEFF
    · subst hbig
      rw [if_pos rfl, ← units_bigEndian_bytes]
      rfl
    · by_cases hlittle : unit = 0xFFFE
      · subst hlittle
        rw [if_neg (by decide), if_pos rfl]
        change String.ofList (characters (Utf16.units .littleEndian (bytes .littleEndian rest))) = _
        rw [units_bytes]
      · rw [if_neg hbig, if_neg hlittle, split_of_ne hbig hlittle]
        change String.ofList (characters (Utf16.units .littleEndian
          (bytes .littleEndian (unit :: rest)))) = _
        rw [units_bytes]

/-! ## The number of units in a text -/

/-- The number of units that a character is written with. -/
def width (character : Char) : Nat :=
  if character.toNat < 0x10000 then 1 else 2

theorem width_single (unit : UInt16) : width (single unit) = 1 := by
  have hbound := unit.toNat_lt
  unfold single
  split
  · rfl
  · rw [width, if_pos]
    rw [Char.toNat_ofNat]
    split
    · exact hbound
    · decide

theorem isLead_iff (unit : UInt16) :
    isLead unit = true ↔ 0xD800 ≤ unit.toNat ∧ unit.toNat < 0xDC00 := by
  simp [isLead, UInt16.le_iff_toNat_le, UInt16.lt_iff_toNat_lt]

theorem isTrail_iff (unit : UInt16) :
    isTrail unit = true ↔ 0xDC00 ≤ unit.toNat ∧ unit.toNat < 0xE000 := by
  simp [isTrail, UInt16.le_iff_toNat_le, UInt16.lt_iff_toNat_lt]

theorem width_paired {lead trail : UInt16} (hlead : isLead lead = true)
    (htrail : isTrail trail = true) : width (paired lead trail) = 2 := by
  obtain ⟨hlow, hhigh⟩ := (isLead_iff lead).mp hlead
  obtain ⟨hlow', hhigh'⟩ := (isTrail_iff trail).mp htrail
  have hvalid : (0x10000 + 0x400 * (lead.toNat - 0xD800) + (trail.toNat - 0xDC00)).isValidChar := by
    apply Or.inr
    omega
  rw [width, paired, Char.toNat_ofNat, if_pos hvalid, if_neg (by omega)]

/-- The characters of units take as many units as they were made of. -/
theorem sum_width_characters (units : List UInt16) :
    ((characters units).map width).sum = units.length := by
  fun_induction characters units with
  | case1 => rfl
  | case2 unit => simp [width_single]
  | case3 first second rest hpair ih =>
    obtain ⟨hlead, htrail⟩ := Bool.and_eq_true_iff.mp hpair
    rw [List.map_cons, List.sum_cons, ih, width_paired hlead htrail, List.length_cons, List.length_cons]
    omega
  | case4 first second rest _ ih =>
    rw [List.map_cons, List.sum_cons, ih, width_single]
    exact Nat.add_comm _ _

/-- A text that is cut behind its mark is another text. -/
theorem ofUnits_take_ne {units : List UInt16} {count : Nat} (hpos : 1 ≤ count)
    (hless : count < units.length) : ofUnits (units.take count) ≠ ofUnits units := by
  intro hsame
  have hlength : (unmarked (units.take count)).length = (unmarked units).length := by
    rw [← sum_width_characters, ← sum_width_characters, String.ofList_injective hsame]
  cases units with
  | nil => simp at hless
  | cons unit rest =>
    obtain ⟨more, rfl⟩ := Nat.exists_eq_add_one_of_ne_zero (Nat.ne_of_gt hpos)
    rw [List.length_cons] at hless
    rw [List.take_succ_cons, unmarked, unmarked] at hlength
    split_ifs at hlength <;> simp at hlength <;> omega

/-- A unit without a high byte stands before the place and one without a low byte at it. -/
def IsCut (units : List UInt16) (index : Nat) : Prop :=
  1 ≤ index ∧ (∃ before ∈ units[index - 1]?, high before = 0) ∧ ∃ after ∈ units[index]?, low after = 0

theorem IsCut.lt_length {units : List UInt16} {index : Nat} (hcut : IsCut units index) :
    index < units.length := by
  obtain ⟨-, -, after, hafter, -⟩ := hcut
  exact (List.getElem?_eq_some_iff.mp hafter).1

/-- The number of units before the first cut, all if there is none. -/
def kept : List UInt16 → Nat
  | [] => 0
  | [_] => 1
  | first :: second :: rest =>
    if high first = 0 ∧ low second = 0 then 1 else kept (second :: rest) + 1

theorem isCut_cons_succ (unit : UInt16) (rest : List UInt16) {index : Nat} (hpos : 1 ≤ index) :
    IsCut (unit :: rest) (index + 1) ↔ IsCut rest index := by
  obtain ⟨more, rfl⟩ := Nat.exists_eq_add_one_of_ne_zero (Nat.ne_of_gt hpos)
  simp [IsCut]

theorem isCut_cons_iff (unit : UInt16) (rest : List UInt16) (index : Nat) : IsCut (unit :: rest) index ↔
    index = 1 ∧ IsCut (unit :: rest) 1 ∨ ∃ before, index = before + 1 ∧ IsCut rest before := by
  constructor
  · intro hcut
    obtain ⟨before, rfl⟩ := Nat.exists_eq_add_one_of_ne_zero (Nat.ne_of_gt hcut.1)
    by_cases hfirst : before = 0
    · subst hfirst
      exact Or.inl ⟨rfl, hcut⟩
    · exact Or.inr ⟨before, rfl, (isCut_cons_succ unit rest (Nat.pos_of_ne_zero hfirst)).mp hcut⟩
  · rintro (⟨rfl, hcut⟩ | ⟨before, rfl, hcut⟩)
    · exact hcut
    · exact (isCut_cons_succ unit rest hcut.1).mpr hcut

theorem isCut_one (first second : UInt16) (rest : List UInt16) :
    IsCut (first :: second :: rest) 1 ↔ high first = 0 ∧ low second = 0 := by
  simp [IsCut]

/-- The units that are kept end at the first cut, or there is none. -/
theorem kept_cases (units : List UInt16) :
    IsLeast {index | IsCut units index} (kept units) ∨
      (∀ index, ¬ IsCut units index) ∧ kept units = units.length := by
  fun_induction kept units with
  | case1 =>
    apply Or.inr
    refine ⟨?_, rfl⟩
    intro index hcut
    exact Nat.not_lt_zero index hcut.lt_length
  | case2 unit =>
    apply Or.inr
    refine ⟨?_, rfl⟩
    intro index hcut
    exact Nat.not_lt_of_le hcut.1 hcut.lt_length
  | case3 first second rest hcut =>
    apply Or.inl
    refine ⟨(isCut_one first second rest).mpr hcut, ?_⟩
    rintro index ⟨hpos, -⟩
    exact hpos
  | case4 first second rest hnone ih =>
    rw [← isCut_one first second rest] at hnone
    rcases ih with ⟨hcut, hleast⟩ | ⟨hall, hlength⟩
    · apply Or.inl
      refine ⟨(isCut_cons_succ first (second :: rest) hcut.1).mpr hcut, ?_⟩
      intro index hindex
      rcases (isCut_cons_iff first (second :: rest) index).mp hindex with
        ⟨-, hfirst⟩ | ⟨before, rfl, hlater⟩
      · exact absurd hfirst hnone
      · exact Nat.succ_le_succ (hleast hlater)
    · apply Or.inr
      refine ⟨?_, congrArg (· + 1) hlength⟩
      intro index hindex
      rcases (isCut_cons_iff first (second :: rest) index).mp hindex with
        ⟨-, hfirst⟩ | ⟨before, -, hlater⟩
      · exact hnone hfirst
      · exact hall before hlater

/-- A place is the first cut, or the end of units without one, only if it is where the kept units end. -/
theorem eq_kept {units : List UInt16} {index : Nat}
    (hindex : IsLeast {index | IsCut units index} index ∨
      (∀ index, ¬ IsCut units index) ∧ index = units.length) : index = kept units := by
  rcases hindex with hleast | ⟨hnone, rfl⟩
  · rcases kept_cases units with hkept | ⟨hnone, -⟩
    · exact hleast.unique hkept
    · exact absurd hleast.1 (hnone index)
  · rcases kept_cases units with hkept | ⟨-, hkept⟩
    · exact absurd hkept.1 (hnone (kept units))
    · exact hkept.symm

theorem kept_le_length (units : List UInt16) : kept units ≤ units.length := by
  fun_induction kept units with
  | case1 => exact Nat.le_refl _
  | case2 unit => exact Nat.le_refl _
  | case3 first second rest _ => simp
  | case4 first second rest _ ih => exact Nat.succ_le_succ ih

/-- A text that is cut keeps its first unit. -/
theorem kept_pos {units : List UInt16} (hcut : kept units < units.length) : 1 ≤ kept units := by
  fun_induction kept units with
  | case1 => exact absurd hcut (Nat.lt_irrefl 0)
  | case2 unit => exact Nat.le_refl 1
  | case3 first second rest _ => exact Nat.le_refl 1
  | case4 first second rest _ ih => exact Nat.le_add_left 1 _

/-- All units are kept if none below 256 stands directly before one without a low byte. -/
theorem kept_eq_length_iff (units : List UInt16) : kept units = units.length ↔
    units.IsChain fun first second ↦ ¬ (first < 0x100 ∧ low second = 0) := by
  fun_induction kept units with
  | case1 => simp
  | case2 unit => simp
  | case3 first second rest hcut =>
    refine iff_of_false ?_ ?_
    · rw [List.length_cons, List.length_cons]
      omega
    · intro hchain
      apply (List.isChain_cons_cons.mp hchain).1
      rwa [← high_eq_zero_iff]
  | case4 first second rest hnone ih =>
    rw [high_eq_zero_iff] at hnone
    rw [List.isChain_cons_cons, List.length_cons, Nat.add_right_cancel_iff, ih]
    exact (and_iff_right hnone).symm

end Text.Utf16

namespace Decoder

open Text.Utf16 (low high)

/-! ## The search for the terminator -/

/-- Where the first of two zeros that stand side by side is found. -/
def doubleZero? (bytes : List UInt8) : Option Nat :=
  (bytes.zip bytes.tail).findIdx? fun (first, second) ↦ first == 0 && second == 0

theorem utf16End?_eq_map (bytes : List UInt8) :
    utf16End? bytes = (doubleZero? bytes).map fun index ↦ index + index % 2 :=
  rfl

theorem doubleZero?_cons_cons (first second : UInt8) (rest : List UInt8) :
    doubleZero? (first :: second :: rest) =
      if first = 0 ∧ second = 0 then some 0 else (doubleZero? (second :: rest)).map (· + 1) := by
  rw [doubleZero?, List.tail_cons, List.zip_cons_cons, List.findIdx?_cons]
  simp [doubleZero?]

/-- A unit that is not zero is passed over, unless it has no high byte and a zero follows. -/
theorem doubleZero?_unit {unit : UInt16} (hunit : unit ≠ 0) (next : UInt8) (rest : List UInt8) :
    doubleZero? (low unit :: high unit :: next :: rest) =
      if high unit = 0 ∧ next = 0 then some 1 else (doubleZero? (next :: rest)).map (· + 2) := by
  have hpair : ¬ (low unit = 0 ∧ high unit = 0) := by
    rintro ⟨hlow, hhigh⟩
    exact hunit (Text.Utf16.eq_unitOf hlow hhigh)
  rw [doubleZero?_cons_cons, if_neg hpair, doubleZero?_cons_cons]
  split
  · rfl
  · rw [Option.map_map]
    rfl

/-- The search ends where the kept units end, after rounding up. -/
theorem utf16End?_bytes {units : List UInt16} (hunits : 0 ∉ units) (rest : List UInt8) :
    utf16End? (Text.Utf16.bytes .littleEndian units ++ 0 :: 0 :: rest) =
      some (2 * Text.Utf16.kept units) := by
  rw [utf16End?_eq_map]
  fun_induction Text.Utf16.kept units with
  | case1 => simp [doubleZero?_cons_cons]
  | case2 unit =>
    have hunit : unit ≠ 0 := by simpa [eq_comm] using hunits
    rw [Text.Utf16.bytes_littleEndian_cons, List.cons_append, List.cons_append,
      Text.Utf16.bytes_nil, List.nil_append, doubleZero?_unit hunit]
    split
    · rfl
    · simp [doubleZero?_cons_cons]
  | case3 first second others hcut =>
    have hfirst : first ≠ 0 := fun hzero ↦ hunits (by simp [hzero])
    rw [Text.Utf16.bytes_littleEndian_cons, Text.Utf16.bytes_littleEndian_cons, List.cons_append,
      List.cons_append, List.cons_append, doubleZero?_unit hfirst, if_pos hcut]
    rfl
  | case4 first second others hnone ih =>
    have hfirst : first ≠ 0 := fun hzero ↦ hunits (by simp [hzero])
    have ih := ih fun hzero ↦ hunits (List.mem_cons_of_mem _ hzero)
    rw [Text.Utf16.bytes_littleEndian_cons, List.cons_append, List.cons_append] at ih
    rw [Text.Utf16.bytes_littleEndian_cons, Text.Utf16.bytes_littleEndian_cons, List.cons_append,
      List.cons_append, List.cons_append, doubleZero?_unit hfirst, if_neg hnone]
    obtain ⟨index, hindex, hround⟩ := Option.map_eq_some_iff.mp ih
    rw [List.cons_append, hindex, Option.map_some, Option.map_some, Option.some_inj]
    omega

/-- There is no double zero exactly if of two neighbours one is not zero. -/
theorem utf16End?_eq_none_iff (bytes : List UInt8) : utf16End? bytes = none ↔
    bytes.IsChain fun first second ↦ ¬ (first = 0 ∧ second = 0) := by
  rw [utf16End?_eq_map, Option.map_eq_none_iff]
  induction bytes with
  | nil => simp [doubleZero?]
  | cons first rest ih =>
    cases rest with
    | nil => simp [doubleZero?]
    | cons second rest =>
      rw [doubleZero?_cons_cons, List.isChain_cons_cons]
      split
      · rename_i hpair
        simp [hpair]
      · rename_i hpair
        rw [Option.map_eq_none_iff, ih]
        exact (and_iff_right hpair).symm

theorem terminatedSize_utf16_bytes {units : List UInt16} (hunits : 0 ∉ units) (rest : List UInt8) :
    terminatedSize .utf16 (Text.Utf16.bytes .littleEndian units ++ 0 :: 0 :: rest) =
      2 * Text.Utf16.kept units + 2 := by
  have hkept := Text.Utf16.kept_le_length units
  rw [terminatedSize, utf16End?_bytes hunits]
  simp
  omega

theorem beforeTerminator_utf16_bytes {units : List UInt16} (hunits : 0 ∉ units) (rest : List UInt8) :
    beforeTerminator .utf16 (Text.Utf16.bytes .littleEndian units ++ 0 :: 0 :: rest) =
      Text.Utf16.bytes .littleEndian (units.take (Text.Utf16.kept units)) := by
  have hkept := Text.Utf16.kept_le_length units
  rw [beforeTerminator, utf16End?_bytes hunits, Option.getD_some, List.take_append_of_le_length,
    Text.Utf16.take_bytes]
  rw [Text.Utf16.length_bytes]
  omega

theorem terminatedSize_utf16_of_isChain {bytes : List UInt8}
    (hchain : bytes.IsChain fun first second ↦ ¬ (first = 0 ∧ second = 0)) :
    terminatedSize .utf16 bytes = bytes.length := by
  rw [terminatedSize, (utf16End?_eq_none_iff bytes).mpr hchain]

/-- Without a double zero the whole units are the text. -/
theorem beforeTerminator_utf16_of_isChain {bytes : List UInt8}
    (hchain : bytes.IsChain fun first second ↦ ¬ (first = 0 ∧ second = 0)) :
    beforeTerminator .utf16 bytes = bytes.take (2 * (bytes.length / 2)) := by
  rw [beforeTerminator, (utf16End?_eq_none_iff bytes).mpr hchain, Option.getD_none]
  congr 1
  omega

section

variable {decoder : Decoder} {content : List UInt8} (hserves : decoder.source.Serves content)
  {units : List UInt16} (hunits : 0 ∉ units) (hwindow : 2 * units.length + 2 ≤ decoder.window)
  {position : UInt64} {rest : List UInt8}
  (hposition : content.drop position.toNat = Text.Utf16.bytes .littleEndian units ++ 0 :: 0 :: rest)

include hserves hwindow hposition in
/-- The window reaches the two zeros behind the units. -/
theorem bytesAt_of_drop_utf16 : ∃ more, decoder.bytesAt position decoder.window =
    Text.Utf16.bytes .littleEndian units ++ 0 :: 0 :: more := by
  obtain ⟨left, hleft⟩ : ∃ left, decoder.window - 2 * units.length = left + 2 :=
    ⟨decoder.window - 2 * units.length - 2, by omega⟩
  refine ⟨rest.take left, ?_⟩
  rw [bytesAt_eq_take_drop hserves, hposition, List.take_append, Text.Utf16.length_bytes, hleft,
    List.take_of_length_le (by rw [Text.Utf16.length_bytes]; omega), List.take_succ_cons,
    List.take_succ_cons]

include hserves hunits hwindow hposition

theorem value_utf16_of_drop : decoder.value (.text .utf16 none) position =
    .text (Text.Utf16.ofUnits (units.take (Text.Utf16.kept units))) := by
  obtain ⟨more, hbytes⟩ := bytesAt_of_drop_utf16 hserves hwindow hposition
  simp only [value, text, textOf, hbytes, beforeTerminator_utf16_bytes hunits, Text.Utf16.decode_bytes]

theorem toNat_span_utf16_of_drop (hcontent : content.length < UInt64.size) :
    (decoder.span (.text .utf16 none) position).toNat = 2 * Text.Utf16.kept units + 2 := by
  obtain ⟨more, hbytes⟩ := bytesAt_of_drop_utf16 hserves hwindow hposition
  rw [toNat_span_text hserves hcontent, hbytes, terminatedSize_utf16_bytes hunits]

/-- The text is read to its end exactly if all units are kept. -/
theorem value_utf16_eq_iff : decoder.value (.text .utf16 none) position =
    .text (Text.Utf16.ofUnits units) ↔ Text.Utf16.kept units = units.length := by
  rw [value_utf16_of_drop hserves hunits hwindow hposition, Value.text.injEq]
  constructor
  · intro hsame
    by_contra hother
    have hcut := Nat.lt_of_le_of_ne (Text.Utf16.kept_le_length units) hother
    exact Text.Utf16.ofUnits_take_ne (Text.Utf16.kept_pos hcut) hcut hsame
  · intro hall
    rw [hall, List.take_length]

end

/-- Units without zeros, with a zero unit behind them, are read up to the first cut, and the text takes
two bytes more than these units. Text and size reach the zero unit exactly if there is no cut. Where no
double zero is read, the text is made of all whole units and takes all bytes that were read. -/
theorem utf16_terminated {decoder : Decoder} {content : List UInt8}
    (hserves : decoder.source.Serves content) (hcontent : content.length < UInt64.size) :
    (∀ (front back : List UInt8) (units : List UInt16) (stop : Nat),
      content = front ++ Text.Utf16.bytes .littleEndian units ++ 0 :: 0 :: back → 0 ∉ units →
      2 * units.length + 2 ≤ decoder.window →
      (IsLeast {index | Text.Utf16.IsCut units index} stop ∨
        (∀ index, ¬ Text.Utf16.IsCut units index) ∧ stop = units.length) →
      let offset := UInt64.ofNat front.length
      let uncut := units.IsChain fun first second ↦ ¬ (first < 0x100 ∧ Text.Utf16.low second = 0)
      (decoder.reportedSize (.text .utf16 none) offset).map UInt64.toNat = some (2 * stop + 2) ∧
      decoder.value (.text .utf16 none) offset = .text (Text.Utf16.ofUnits (units.take stop)) ∧
      (decoder.value (.text .utf16 none) offset = .text (Text.Utf16.ofUnits units) ↔ uncut) ∧
      ((decoder.elementStart (.text .utf16 none) offset 1).toNat =
        front.length + (2 * units.length + 2) ↔ uncut)) ∧
    ∀ position : UInt64,
      let read := (content.drop position.toNat).take decoder.window
      (read.IsChain fun first second ↦ ¬ (first = 0 ∧ second = 0)) →
      (decoder.reportedSize (.text .utf16 none) position).map UInt64.toNat = some read.length ∧
      ∃ units, units.length = read.length / 2 ∧
        Text.Utf16.bytes .littleEndian units = read.take (2 * (read.length / 2)) ∧
        decoder.value (.text .utf16 none) position = .text (Text.Utf16.ofUnits units) := by
  refine ⟨?_, ?_⟩
  · intro front back units stop hparts hunits hwindow hstop offset uncut
    have hoffset : offset.toNat = front.length := by
      apply UInt64.toNat_ofNat_of_lt'
      rw [hparts, List.append_assoc, List.length_append] at hcontent
      omega
    have hposition : content.drop offset.toNat =
        Text.Utf16.bytes .littleEndian units ++ 0 :: 0 :: back := by
      rw [hoffset, hparts, List.append_assoc, List.drop_left]
    have hsize := toNat_span_utf16_of_drop hserves hunits hwindow hposition hcontent
    obtain rfl := Text.Utf16.eq_kept hstop
    refine ⟨?_, value_utf16_of_drop hserves hunits hwindow hposition, ?_, ?_⟩
    · rw [reportedSize_eq_span, Option.map_some, hsize]
    · exact (value_utf16_eq_iff hserves hunits hwindow hposition).trans
        (Text.Utf16.kept_eq_length_iff units)
    · have hwithin : (decoder.elementStart (.text .utf16 none) offset 0).toNat ≤ content.length := by
        rw [elementStart, hoffset, hparts, List.append_assoc, List.length_append]
        exact Nat.le_add_right _ _
      have hnext := toNat_elementStart_succ hserves hcontent .utf16 offset 0 hwithin
      rw [elementStart, hsize, hoffset] at hnext
      rw [hnext]
      refine Iff.trans ?_ (Text.Utf16.kept_eq_length_iff units)
      omega
  · intro position read hchain
    have hread : decoder.bytesAt position decoder.window = read := hserves position decoder.window
    obtain ⟨units, hunits, hbytes⟩ := Text.Utf16.exists_bytes_eq (read.length / 2)
      (show (read.take (2 * (read.length / 2))).length = 2 * (read.length / 2) by
        rw [List.length_take]
        omega)
    refine ⟨?_, units, hunits, hbytes, ?_⟩
    · rw [reportedSize_eq_span, Option.map_some, toNat_span_text hserves hcontent, hread,
        terminatedSize_utf16_of_isChain hchain]
    · simp only [value, text, textOf, hread, beforeTerminator_utf16_of_isChain hchain, ← hbytes,
        Text.Utf16.decode_bytes]

/-- The text `AĀB` is cut behind its first unit, since the second has no low byte; the bytes behind the
terminator have no double zero, and one of them is left over. -/
theorem utf16_terminated_cut :
    let units : List UInt16 := [0x41, 0x100, 0x42]
    let content := [7] ++ Text.Utf16.bytes .littleEndian units ++ 0 :: 0 :: [0x43, 0, 0x44]
    let decoder : Decoder := ⟨.ofArray content.toArray, 4, 8, fun _ ↦ 0⟩
    (decoder.source.Serves content ∧ IsLeast {index | Text.Utf16.IsCut units index} 1) ∧
      (decoder.reportedSize (.text .utf16 none) 1).map UInt64.toNat = some 4 ∧
      decoder.value (.text .utf16 none) 1 = .text "A" ∧
      decoder.value (.text .utf16 none) 1 ≠ .text (Text.Utf16.ofUnits units) ∧
      (decoder.reportedSize (.text .utf16 none) 9).map UInt64.toNat = some 3 := by
  intro units content decoder
  have hserves : decoder.source.Serves content := Source.serves_ofArray content
  have hcut : IsLeast {index | Text.Utf16.IsCut units index} 1 := by
    refine ⟨(Text.Utf16.isCut_one 0x41 0x100 [0x42]).mpr (by decide), ?_⟩
    rintro index ⟨hpos, -⟩
    exact hpos
  obtain ⟨hunits, hrest⟩ := utf16_terminated hserves (by decide)
  obtain ⟨hsize, hvalue, hwhole, -⟩ :=
    hunits [7] [0x43, 0, 0x44] units 1 rfl (by decide) (by decide) (.inl hcut)
  obtain ⟨hlast, -⟩ := hrest 9 (by decide)
  exact ⟨⟨hserves, hcut⟩, hsize, hvalue, fun hread ↦ absurd (hwhole.mp hread) (by decide), hlast⟩

end Decoder

end BinaryLayout
