import BinaryLayout.Name
import Mathlib

/-!
# The First Character of a Canonical Name

Putting a character in upper case never gives an ASCII lower-case letter in front, whether it maps to
one character, to several or to itself. Canonical names therefore differ from everything that starts
with such a letter, which is how the keys of all other kinds start.
-/

namespace BinaryLayout

namespace Text.Uppercase

def isLowerCode (code : Nat) : Bool :=
  0x61 ≤ code && code ≤ 0x7A

theorem isLowerCode_eq_true (code : Nat) :
    isLowerCode code = true ↔ 0x61 ≤ code ∧ code ≤ 0x7A := by
  simp [isLowerCode]

theorem isLowerCode_toNat (character : Char) :
    isLowerCode character.toNat = character.isLower := by
  simp [isLowerCode, Char.isLower, UInt32.le_iff_toNat_le, ← Char.toNat_val]

theorem expansions_head : ∀ entry ∈ expansions, ∃ head ∈ entry.2.head?, isLowerCode head = false := by
  decide +kernel

/-- The images of a run lie on one side of the lower-case letters. -/
theorem runs_image : ∀ run ∈ runs,
    0x7A < run.image ∨ run.image + (run.last - run.first) < 0x61 := by
  decide +kernel

theorem Run.apply_not_lower {run : Run} (hrun : run ∈ runs) {code : Nat}
    (hcovers : run.covers code = true) : isLowerCode (run.apply code) = false := by
  have himage := runs_image run hrun
  simp only [Run.covers, Bool.and_eq_true, decide_eq_true_eq] at hcovers
  rw [Bool.eq_false_iff, ne_eq, isLowerCode_eq_true, Run.apply]
  omega

/-- A code point that no run covers is no lower-case letter, since the first run covers them all. -/
theorem not_lower_of_uncovered {code : Nat} (hnone : runs.find? (·.covers code) = none) :
    isLowerCode code = false := by
  have hfirst := List.find?_eq_none.mp hnone ⟨0x61, 0x7A, 1, 0x41⟩ List.mem_cons_self
  simpa [Run.covers, isLowerCode, Nat.mod_one] using hfirst

/-- The ways in which a code point gets its upper-case form. -/
theorem codes_cases (code : Nat) :
    (code, codes code) ∈ expansions ∨
    (∃ run ∈ runs, run.covers code = true ∧ codes code = [run.apply code]) ∨
    (runs.find? (·.covers code) = none ∧ codes code = [code]) := by
  unfold codes
  split
  · rename_i form hform
    obtain ⟨front, back, hexpansions, -⟩ := List.lookup_eq_some_iff.mp hform
    exact .inl (by simp [hexpansions])
  · split
    · rename_i run hrun
      have hcovers : run.covers code = true := by simpa using List.find?_some hrun
      exact .inr (.inl ⟨run, List.mem_of_find?_eq_some hrun, hcovers, rfl⟩)
    · rename_i hnone
      exact .inr (.inr ⟨hnone, rfl⟩)

theorem codes_head (code : Nat) : ∃ head ∈ (codes code).head?, isLowerCode head = false := by
  rcases codes_cases code with hexpansion | ⟨run, hrun, hcovers, hcodes⟩ | ⟨hnone, hcodes⟩
  · exact expansions_head _ hexpansion
  · rw [hcodes]
    exact ⟨run.apply code, rfl, Run.apply_not_lower hrun hcovers⟩
  · rw [hcodes]
    exact ⟨code, rfl, not_lower_of_uncovered hnone⟩

theorem uppercase_head (character : Char) :
    ∃ head ∈ (uppercase character).head?, head.isLower = false := by
  obtain ⟨code, hcode, hlower⟩ := codes_head character.toNat
  refine ⟨Char.ofNat code, by simp [uppercase, Option.mem_def.mp hcode], ?_⟩
  rw [← isLowerCode_toNat]
  by_cases hvalid : code.isValidChar
  · rwa [Char.toNat_ofNat, if_pos hvalid]
  · simp [Char.toNat_ofNat, hvalid, isLowerCode]

end Text.Uppercase

namespace Name

/-- A canonical name does not start with an ASCII lower-case letter. -/
theorem canonical_head_not_lower {name : String} {head : Char}
    (hhead : head ∈ (canonical name).toList.head?) : head.isLower = false := by
  unfold canonical at hhead
  split at hhead
  · simp at hhead
  · rename_i first rest _
    obtain ⟨start, hstart, hlower⟩ := Text.Uppercase.uppercase_head first
    have hsame : start = head := by
      simpa [List.head?_append, Option.mem_def.mp hstart] using hhead
    rwa [← hsame]

end Name

end BinaryLayout
