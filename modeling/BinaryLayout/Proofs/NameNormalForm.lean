import BinaryLayout.Proofs.CanonicalName
import BinaryLayout.Proofs.HelperClosure
import Mathlib

/-!
# Canonical Names Are Normal Forms

The first character of an upper-case form is its own upper-case form, whether the form has one
character or several. So a canonical name is left alone when it is made canonical again. It starts
neither with an underscore nor with a lower-case letter of ASCII, which keeps the key of a structure
apart from the keys of all other kinds, and the name itself from the words that the generated
language reserves in lower case.
-/

namespace BinaryLayout

namespace Text.Uppercase

def mapped : List Run :=
  runs ++ expansions.map fun entry ↦ ⟨entry.1, entry.1, 1, entry.1⟩

/-- Whether no image of the first run is covered by the second: they lie apart, or one is even and
the other odd. -/
def Run.avoids (first second : Run) : Bool :=
  Nat.blt second.last first.image ||
    Nat.blt (first.image + (first.last - first.first)) second.first ||
    ((Nat.beq first.step 2 || Nat.beq first.first first.last) && Nat.beq second.step 2 &&
      Nat.beq ((first.image + second.first) % 2) 1)

theorem runs_avoid : (runs.all fun first ↦ mapped.all first.avoids) = true := by
  decide +kernel

theorem expansions_fixed : ∀ entry ∈ expansions,
    ∃ head ∈ entry.2.head?, codes head = [head] ∧ head ≠ 0x5F := by
  decide +kernel

/-- The images of a run lie on one side of the underscore. -/
theorem runs_underscore : ∀ run ∈ runs,
    0x5F < run.image ∨ run.image + (run.last - run.first) < 0x5F := by
  decide +kernel

theorem Run.covers_apply {first second : Run} (havoids : first.avoids second = true) {code : Nat}
    (hcovers : first.covers code = true) : second.covers (first.apply code) = false := by
  simp only [Run.avoids, Bool.or_eq_true, Bool.and_eq_true, Nat.blt_eq, Nat.beq_eq]
    at havoids
  simp only [Run.covers, Bool.and_eq_true, decide_eq_true_eq, beq_iff_eq] at hcovers
  rw [Bool.eq_false_iff, ne_eq, Run.covers, Run.apply]
  simp only [Bool.and_eq_true, decide_eq_true_eq, beq_iff_eq, not_and]
  rcases havoids with (hbelow | habove) | ⟨⟨hfirst | hfirst, hsecond⟩, hparity⟩
  · omega
  · omega
  · -- The runs overlap: every code point of one is even and every one of the other odd.
    rw [hfirst] at hcovers
    rw [hsecond]
    omega
  · rw [hsecond]
    omega

/-- A code point that is not mapped is its own form. -/
theorem codes_of_unmapped {code : Nat} (hunmapped : ∀ run ∈ mapped, run.covers code = false) :
    codes code = [code] := by
  rcases codes_cases code with hexpansion | ⟨run, hrun, hcovers, -⟩ | ⟨-, hcodes⟩
  · have hentry := hunmapped ⟨code, code, 1, code⟩
      (List.mem_append_right _ (List.mem_map.mpr ⟨_, hexpansion, rfl⟩))
    simp [Run.covers] at hentry
  · have hother := hunmapped run (List.mem_append_left _ hrun)
    simp [hcovers] at hother
  · exact hcodes

theorem codes_apply {run : Run} (hrun : run ∈ runs) {code : Nat}
    (hcovers : run.covers code = true) : codes (run.apply code) = [run.apply code] := by
  refine codes_of_unmapped fun other hother ↦ ?_
  have havoids := List.all_eq_true.mp (List.all_eq_true.mp runs_avoid run hrun) other hother
  exact Run.covers_apply havoids hcovers

/-- The first code point of an upper-case form is its own form. -/
theorem codes_head_fixed (code : Nat) :
    ∃ head ∈ (codes code).head?, codes head = [head] ∧ (code ≠ 0x5F → head ≠ 0x5F) := by
  rcases codes_cases code with hexpansion | ⟨run, hrun, hcovers, hcodes⟩ | ⟨-, hcodes⟩
  · obtain ⟨head, hhead, hfixed, hother⟩ := expansions_fixed _ hexpansion
    exact ⟨head, hhead, hfixed, fun _ ↦ hother⟩
  · refine ⟨run.apply code, by simp [hcodes], codes_apply hrun hcovers, fun _ ↦ ?_⟩
    have himage := runs_underscore run hrun
    simp only [Run.covers, Bool.and_eq_true, decide_eq_true_eq] at hcovers
    rw [Run.apply]
    omega
  · exact ⟨code, by simp [hcodes], hcodes, fun hother ↦ hother⟩

theorem uppercase_ofNat {code : Nat} (hfixed : codes code = [code]) :
    uppercase (Char.ofNat code) = [Char.ofNat code] := by
  by_cases hvalid : code.isValidChar
  · rw [uppercase, Char.toNat_ofNat, if_pos hvalid, hfixed]
    rfl
  · -- A number that is no character stands for the null character, which has no case.
    have hzero : Char.ofNat code = Char.ofNat 0 := by
      apply Char.toNat_inj.mp
      rw [Char.toNat_ofNat, if_neg hvalid]
      rfl
    rw [hzero]
    decide +kernel

theorem uppercase_head_fixed (character : Char) :
    ∃ head ∈ (uppercase character).head?, uppercase head = [head] ∧
      (character ≠ '_' → head ≠ '_') := by
  obtain ⟨code, hcode, hfixed, hother⟩ := codes_head_fixed character.toNat
  refine ⟨Char.ofNat code, by simp [uppercase, Option.mem_def.mp hcode], uppercase_ofNat hfixed, ?_⟩
  intro hcharacter hunderscore
  have hnumber := congrArg Char.toNat hunderscore
  rw [Char.toNat_ofNat] at hnumber
  split at hnumber
  · exact hother (fun hsame ↦ hcharacter (Char.toNat_inj.mp hsame)) hnumber
  · cases hnumber

end Text.Uppercase

/-! ## Names -/

namespace Name

open Text

/-- A name that starts with a character that is its own upper-case form, and not with an underscore,
is left alone. -/
theorem canonical_of_fixed {name : String} {head : Char} {rest : List Char}
    (hname : name.toList = head :: rest) (hfixed : Uppercase.uppercase head = [head])
    (hunderscore : head ≠ '_') : canonical name = name := by
  have hdrop : name.toList.dropWhile (· == '_') = head :: rest := by
    rw [hname, List.dropWhile_cons_of_neg (by simpa using hunderscore)]
  unfold canonical
  rw [hdrop]
  apply String.toList_injective
  simp [hfixed, hname]

/-- Nothing is left of a name, or it starts with a character that is its own upper-case form. -/
theorem canonical_cases (name : String) :
    canonical name = "" ∨ ∃ head rest, (canonical name).toList = head :: rest ∧
      Uppercase.uppercase head = [head] ∧ head ≠ '_' := by
  unfold canonical
  split
  · exact .inl rfl
  · rename_i first rest hdrop
    have hfirst : first ≠ '_' := by
      have hstops := List.head?_dropWhile_not (· == '_') name.toList
      rw [hdrop] at hstops
      simpa using hstops
    obtain ⟨head, hhead, hfixed, hother⟩ := Uppercase.uppercase_head_fixed first
    obtain ⟨tail, htail⟩ := List.head?_eq_some_iff.mp hhead
    refine .inr ⟨head, tail ++ rest, ?_, hfixed, hother hfirst⟩
    simp [htail]

theorem canonical_canonical (name : String) : canonical (canonical name) = canonical name := by
  rcases canonical_cases name with hempty | ⟨head, rest, hname, hfixed, hunderscore⟩
  · rw [hempty]
    rfl
  · exact canonical_of_fixed hname hfixed hunderscore

theorem canonical_head_ne_underscore {name : String} {head : Char}
    (hhead : head ∈ (canonical name).toList.head?) : head ≠ '_' := by
  rcases canonical_cases name with hempty | ⟨start, rest, hname, -, hunderscore⟩
  · simp [hempty] at hhead
  · obtain rfl : start = head := by simpa [hname] using hhead
    exact hunderscore

/-- All reserved words but one start with an underscore or a lower-case letter. -/
theorem reserved_start : ∀ word ∈ keywords ++ unusable, word = "Self" ∨
    word.toList.head?.any (fun head ↦ head == '_' || head.isLower) = true := by
  decide

theorem eq_self_of_reserved {name : String} (hreserved : canonical name ∈ keywords ++ unusable) :
    canonical name = "Self" := by
  rcases reserved_start _ hreserved with hself | hstart
  · exact hself
  · obtain ⟨head, hhead, hkind⟩ := (Option.any_eq_true _ _).mp hstart
    simp [canonical_head_ne_underscore hhead, canonical_head_not_lower hhead] at hkind

end Name

namespace Kind

/-- The key of a kind that is no structure starts with a lower-case letter. -/
theorem key_head_lower (options : Options) {kind : Kind}
    (hkind : ∀ target, kind ≠ .reference target) :
    ∃ head ∈ (kind.key options).toList.head?, head.isLower = true := by
  cases kind with
  | integer type =>
    obtain ⟨width, signed⟩ := type
    cases signed <;> simp [key, IntegerType.key, Char.isLower]
  | text encoding length =>
    cases encoding <;> cases length <;> simp [key, Encoding.key, Char.isLower]
  | reference target => exact absurd rfl (hkind target)
  | bitField field => simp [key, BitField.key, Char.isLower]
  | enumeration choices => simp [key, Enumeration.key, Char.isLower]
  | flags names => simp [key, Flags.key, Char.isLower]
  | signature expected => simp [key, Char.isLower]
  | array count element => simp [key, Char.isLower]
  | pointer element => simp [key, Char.isLower]

theorem canonical_ne_key (options : Options) (name : String) {other : Kind}
    (hother : ∀ target, other ≠ .reference target) : Name.canonical name ≠ other.key options := by
  intro hsame
  obtain ⟨head, hhead, hlower⟩ := key_head_lower options hother
  rw [← hsame] at hhead
  rw [Name.canonical_head_not_lower hhead] at hlower
  cases hlower

end Kind

namespace Context

/-- A structure that was resolved is called by a canonical name. -/
theorem exists_canonical_of_reference (options : Options) (calls : List (Spec × Json))
    {field : Field} (hfield : field ∈ (resolveAll calls { options }).arena) {target : String}
    (hkind : field.kind = .reference target) : ∃ name, target = Name.canonical name := by
  have hsound := (sound_start options).resolveAll calls
  have hnamed := hsound.named field.kind ⟨field, hfield, .refl⟩
  obtain ⟨-, name, hname⟩ := hnamed target (by simp [hkind, Kind.leaf])
  exact ⟨name, hname⟩

end Context

namespace Name

/-- Canonical names are normal forms. Making a name canonical a second time changes nothing, and the
result starts neither with an underscore nor with a lower-case letter of ASCII. So the key of a
structure that any run has resolved is not the key of a kind of another form, and of the words that
the generated language reserves a canonical name can only be the one in upper case. -/
theorem canonical_normal_form :
    (∀ name, canonical (canonical name) = canonical name) ∧
    (∀ name, ∀ head ∈ (canonical name).toList.head?, head ≠ '_' ∧ ¬('a' ≤ head ∧ head ≤ 'z')) ∧
    (∀ options calls, ∀ field ∈ (Context.resolveAll calls { options }).arena, ∀ target,
      field.kind = .reference target → ∀ other : Kind, (∀ name, other ≠ .reference name) →
        field.kind.key options ≠ other.key options) ∧
    (∀ name, canonical name ∈ keywords ++ unusable → canonical name = "Self") := by
  refine ⟨canonical_canonical, ?_, ?_, fun name ↦ eq_self_of_reserved⟩
  · intro name head hhead
    refine ⟨canonical_head_ne_underscore hhead, ?_⟩
    simpa [Char.isLower, Char.le_def] using canonical_head_not_lower hhead
  · intro options calls field hfield target hkind other hother
    obtain ⟨name, rfl⟩ := Context.exists_canonical_of_reference options calls hfield hkind
    rw [hkind]
    exact Kind.canonical_ne_key options name hother

/-- A name whose first letter becomes two letters, and a structure called like the key of a
pointer. -/
theorem canonical_normal_form_pointer :
    let calls : List (Spec × Json) :=
      [({}, .array [.number (.natural 0), .array [.string "__ptr_uint64"]])]
    let field : Field := ⟨0, .reference "Ptr_uint64", none⟩
    canonical (canonical "_ßx") = canonical "_ßx" ∧
    field ∈ (Context.resolveAll calls { options := {} }).arena ∧
    field.kind.key {} ≠ (Kind.pointer .word).key {} := by
  intro calls field
  obtain ⟨hagain, -, hkeys, -⟩ := canonical_normal_form
  have hfield : field ∈ (Context.resolveAll calls { options := {} }).arena := by
    decide +kernel
  exact ⟨hagain _, hfield, hkeys {} calls field hfield _ rfl _ (by simp)⟩

end Name

end BinaryLayout
