import BinaryLayout.Ordered
import Mathlib

/-!
# Maps as Ordered Lists

A list of pairs with increasing keys is a map: it has one pair at most for a key, looking a key up
finds it, and two such lists with the same pairs are equal. Insertion keeps the order.
-/

namespace BinaryLayout.Ordered

/-- Looking a key up finds the pair with that key. -/
theorem lookup_eq_some_of_mem {κ ν : Type} [DecidableEq κ] {pairs : List (κ × ν)}
    (hpairs : (pairs.map Prod.fst).Nodup) {key : κ} {value : ν} (hmem : (key, value) ∈ pairs) :
    pairs.lookup key = some value := by
  obtain ⟨front, back, rfl⟩ := List.append_of_mem hmem
  refine List.lookup_eq_some_iff.mpr ⟨front, back, rfl, ?_⟩
  intro pair hpair
  simp only [List.map_append, List.map_cons, List.nodup_append, List.mem_map] at hpairs
  have hdifferent := hpairs.2.2 pair.1 ⟨pair, hpair, rfl⟩ key List.mem_cons_self
  exact bne_iff_ne.mpr hdifferent.symm

theorem lookup_cons_eq {κ ν : Type} [DecidableEq κ] (key other : κ) (value : ν)
    (rest : List (κ × ν)) :
    ((key, value) :: rest).lookup other = if other = key then some value else rest.lookup other := by
  by_cases hsame : other = key
  · simp [hsame]
  · simp [List.lookup_cons, beq_false_of_ne hsame, hsame]

theorem lookup_cons_eq_none {κ ν : Type} [DecidableEq κ] {key other : κ} {value : ν}
    {rest : List (κ × ν)} :
    ((key, value) :: rest).lookup other = none ↔ other ≠ key ∧ rest.lookup other = none := by
  rw [lookup_cons_eq]
  split <;> simp_all

theorem mem_keys_iff_isSome_lookup {κ ν : Type} [DecidableEq κ] (key : κ) (pairs : List (κ × ν)) :
    key ∈ pairs.map Prod.fst ↔ (pairs.lookup key).isSome := by
  rw [List.lookup_isSome_iff, List.mem_map]
  apply exists_congr
  intro pair
  rw [beq_iff_eq, eq_comm]

theorem find?_key_eq {κ ν : Type} [DecidableEq κ] (key : κ) (pairs : List (κ × ν)) :
    (pairs.find? fun pair ↦ pair.1 = key).map Prod.snd = pairs.lookup key := by
  induction pairs with
  | nil => rfl
  | cons pair rest ih =>
    rw [List.find?_cons, lookup_cons_eq, ← ih]
    by_cases hsame : pair.1 = key
    · simp [hsame]
    · simp [hsame, Ne.symm hsame]

/-- Leaving out other keys does not change what a key leads to. -/
theorem lookup_filter {κ ν : Type} [DecidableEq κ] {keeps : κ → Bool} {key : κ}
    (hkey : keeps key = true) (pairs : List (κ × ν)) :
    (pairs.filter fun pair ↦ keeps pair.1).lookup key = pairs.lookup key := by
  induction pairs with
  | nil => rfl
  | cons pair rest ih =>
    obtain ⟨other, value⟩ := pair
    by_cases hsame : key = other
    · subst hsame
      simp [hkey, List.lookup]
    · have hother : (key == other) = false := beq_false_of_ne hsame
      cases hkept : keeps other with
      | false => simpa [hkept, List.lookup, hother] using ih
      | true => simpa [hkept, List.lookup, hother] using ih

theorem lookup_map {κ ν μ : Type} [DecidableEq κ] (change : κ → ν → μ) (key : κ)
    (pairs : List (κ × ν)) :
    (pairs.map fun pair ↦ (pair.1, change pair.1 pair.2)).lookup key =
      (pairs.lookup key).map (change key) := by
  induction pairs with
  | nil => rfl
  | cons pair rest ih =>
    obtain ⟨other, value⟩ := pair
    by_cases hsame : key = other
    · subst hsame
      simp [List.lookup]
    · simpa [List.lookup, beq_false_of_ne hsame] using ih

variable {κ ν : Type} [Ord κ]

def Increasing (pairs : List (κ × ν)) : Prop :=
  pairs.Pairwise fun first second ↦ compare first.1 second.1 = .lt

theorem mem_of_mem_insert {key : κ} {value : ν} {entry : κ × ν} {pairs : List (κ × ν)}
    (hentry : entry ∈ insert key value pairs) : entry = (key, value) ∨ entry ∈ pairs := by
  induction pairs with
  | nil => simpa [insert] using hentry
  | cons pair rest ih =>
    obtain ⟨other, old⟩ := pair
    unfold insert at hentry
    split at hentry
    · simpa using hentry
    · rcases List.mem_cons.mp hentry with rfl | hrest
      · exact .inl rfl
      · exact .inr (List.mem_cons_of_mem _ hrest)
    · rcases List.mem_cons.mp hentry with rfl | hrest
      · exact .inr List.mem_cons_self
      · exact (ih hrest).imp_right (List.mem_cons_of_mem _)

theorem mem_insert_self (key : κ) (value : ν) (pairs : List (κ × ν)) :
    (key, value) ∈ insert key value pairs := by
  induction pairs with
  | nil => simp [insert]
  | cons pair rest ih =>
    obtain ⟨other, old⟩ := pair
    unfold insert
    split
    · exact List.mem_cons_self
    · exact List.mem_cons_self
    · exact List.mem_cons_of_mem _ ih

/-- A pair with another key stays. -/
theorem mem_insert_of_mem [Std.LawfulEqOrd κ] {key : κ} {value : ν} {entry : κ × ν}
    {pairs : List (κ × ν)} (hentry : entry ∈ pairs) (hkey : entry.1 ≠ key) :
    entry ∈ insert key value pairs := by
  induction pairs with
  | nil => simp at hentry
  | cons pair rest ih =>
    obtain ⟨other, old⟩ := pair
    unfold insert
    split
    · exact List.mem_cons_of_mem _ hentry
    · rename_i hequal
      obtain rfl : key = other := Std.LawfulEqOrd.eq_of_compare hequal
      rcases List.mem_cons.mp hentry with rfl | hrest
      · exact absurd rfl hkey
      · exact List.mem_cons_of_mem _ hrest
    · rcases List.mem_cons.mp hentry with rfl | hrest
      · exact List.mem_cons_self
      · exact List.mem_cons_of_mem _ (ih hrest)

theorem Increasing.insert [Std.TransOrd κ] [Std.LawfulEqOrd κ] {pairs : List (κ × ν)}
    (hpairs : Increasing pairs) (key : κ) (value : ν) : Increasing (insert key value pairs) := by
  induction pairs with
  | nil => simp [Ordered.insert, Increasing]
  | cons pair rest ih =>
    obtain ⟨other, old⟩ := pair
    have hrest := List.pairwise_cons.mp hpairs
    unfold Ordered.insert
    split
    · rename_i hless
      refine List.pairwise_cons.mpr ⟨?_, hpairs⟩
      intro entry hentry
      rcases List.mem_cons.mp hentry with rfl | hbehind
      · exact hless
      · exact Std.TransCmp.lt_trans hless (hrest.1 entry hbehind)
    · rename_i hequal
      obtain rfl : key = other := Std.LawfulEqOrd.eq_of_compare hequal
      exact List.pairwise_cons.mpr hrest
    · rename_i hgreater
      refine List.pairwise_cons.mpr ⟨?_, ih hrest.2⟩
      intro entry hentry
      rcases mem_of_mem_insert hentry with rfl | hbehind
      · exact Std.OrientedCmp.lt_of_gt hgreater
      · exact hrest.1 entry hbehind

/-- No two pairs have the same key. -/
theorem Increasing.nodup_keys [Std.ReflOrd κ] {pairs : List (κ × ν)} (hpairs : Increasing pairs) :
    (pairs.map Prod.fst).Nodup := by
  rw [List.Nodup, List.pairwise_map]
  refine hpairs.imp fun hless hequal ↦ ?_
  rw [hequal, Std.ReflOrd.compare_self] at hless
  simp at hless

/-- Two maps with the same pairs are equal. -/
theorem Increasing.ext [Std.TransOrd κ] {first second : List (κ × ν)} (hfirst : Increasing first)
    (hsecond : Increasing second) (hsame : ∀ entry, entry ∈ first ↔ entry ∈ second) :
    first = second := by
  have hnodup {pairs : List (κ × ν)} (hpairs : Increasing pairs) : pairs.Nodup :=
    hpairs.nodup_keys.of_map
  have hperm : first.Perm second :=
    (List.perm_ext_iff_of_nodup (hnodup hfirst) (hnodup hsecond)).mpr hsame
  refine hperm.eq_of_pairwise ?_ hfirst hsecond
  intro entry entry' _ _ hless hgreater
  have hself := Std.TransCmp.lt_trans hless hgreater
  rw [Std.ReflOrd.compare_self] at hself
  simp at hself

theorem increasing_ofList [Std.TransOrd κ] [Std.LawfulEqOrd κ] (pairs : List (κ × ν)) :
    Increasing (ofList pairs) := by
  have hfold (ordered : List (κ × ν)) (hordered : Increasing ordered) :
      Increasing (pairs.foldl (fun ordered pair ↦ Ordered.insert pair.1 pair.2 ordered) ordered) := by
    induction pairs generalizing ordered with
    | nil => exact hordered
    | cons pair rest ih => exact ih _ (hordered.insert pair.1 pair.2)
  exact hfold [] List.Pairwise.nil

section Lookup

variable [DecidableEq κ] [Std.LawfulEqOrd κ]

theorem lookup_insert (key other : κ) (value : ν) (pairs : List (κ × ν)) :
    (insert key value pairs).lookup other = if other = key then some value else pairs.lookup other := by
  induction pairs with
  | nil => simp [insert, lookup_cons_eq]
  | cons pair rest ih =>
    obtain ⟨first, old⟩ := pair
    unfold insert
    split
    · rw [lookup_cons_eq]
    · rename_i hequal
      obtain rfl : key = first := Std.LawfulEqOrd.eq_of_compare hequal
      rw [lookup_cons_eq, lookup_cons_eq]
      split <;> rfl
    · rename_i hgreater
      have hdifferent : key ≠ first := by
        rintro rfl
        simp at hgreater
      rw [lookup_cons_eq, lookup_cons_eq, ih]
      grind

theorem mem_keys_insert (key other : κ) (value : ν) (pairs : List (κ × ν)) :
    other ∈ (insert key value pairs).map Prod.fst ↔ other = key ∨ other ∈ pairs.map Prod.fst := by
  rw [mem_keys_iff_isSome_lookup, mem_keys_iff_isSome_lookup, lookup_insert]
  split <;> simp_all

theorem mem_keys_ofList (key : κ) (pairs : List (κ × ν)) :
    key ∈ (ofList pairs).map Prod.fst ↔ key ∈ pairs.map Prod.fst := by
  have hfold (ordered : List (κ × ν)) :
      key ∈ (pairs.foldl (fun ordered pair ↦ insert pair.1 pair.2 ordered) ordered).map Prod.fst ↔
        key ∈ ordered.map Prod.fst ∨ key ∈ pairs.map Prod.fst := by
    induction pairs generalizing ordered with
    | nil => simp
    | cons pair rest ih =>
      rw [List.foldl_cons, ih, mem_keys_insert, List.map_cons, List.mem_cons, or_assoc, or_left_comm]
  rw [ofList, hfold]
  simp

theorem lookup_eq_none_of_lt {key : κ} {pairs : List (κ × ν)}
    (hless : ∀ pair ∈ pairs, compare key pair.1 = .lt) : pairs.lookup key = none := by
  apply List.lookup_eq_none_iff.mpr
  intro pair hpair
  apply bne_iff_ne.mpr
  intro hsame
  simpa [hsame] using hless pair hpair

/-- Of two keys the lesser is found first. -/
theorem Increasing.find?_two_keys [Std.TransOrd κ] {pairs : List (κ × ν)} (hpairs : Increasing pairs)
    {low high : κ} (hless : compare low high = .lt) :
    (pairs.find? fun pair ↦ pair.1 = low ∨ pair.1 = high).map Prod.snd =
      (pairs.lookup low).or (pairs.lookup high) := by
  induction pairs with
  | nil => rfl
  | cons pair rest ih =>
    obtain ⟨first, value⟩ := pair
    have hrest := List.pairwise_cons.mp hpairs
    rw [List.find?_cons, lookup_cons_eq, lookup_cons_eq]
    by_cases hlow : first = low
    · simp [hlow]
    · by_cases hhigh : first = high
      · have hnone : rest.lookup low = none := by
          apply lookup_eq_none_of_lt
          intro pair hpair
          exact Std.TransCmp.lt_trans hless (hhigh ▸ hrest.1 pair hpair)
        have hdifferent : low ≠ high := fun hsame ↦ hlow (hhigh.trans hsame.symm)
        simp [hhigh, hnone, hdifferent]
      · simpa [hlow, hhigh, Ne.symm hlow, Ne.symm hhigh] using ih hrest.2

/-- A pair whose key is there already is left out, and otherwise inserted. -/
theorem Increasing.insertNew_eq [Std.TransOrd κ] {pairs : List (κ × ν)} (hpairs : Increasing pairs)
    (key : κ) (value : ν) :
    insertNew key value pairs =
      if (pairs.lookup key).isSome then pairs else Ordered.insert key value pairs := by
  induction pairs with
  | nil => rfl
  | cons pair rest ih =>
    obtain ⟨first, old⟩ := pair
    have hrest := List.pairwise_cons.mp hpairs
    cases horder : compare key first with
    | lt =>
      have hnone : ((first, old) :: rest).lookup key = none := by
        apply lookup_eq_none_of_lt
        intro pair hpair
        rcases List.mem_cons.mp hpair with rfl | hbehind
        · exact horder
        · exact Std.TransCmp.lt_trans horder (hrest.1 pair hbehind)
      simp [insertNew, Ordered.insert, horder, hnone]
    | eq =>
      obtain rfl : key = first := Std.LawfulEqOrd.eq_of_compare horder
      simp [insertNew]
    | gt =>
      have hdifferent : key ≠ first := by
        rintro rfl
        simp at horder
      simp only [insertNew, Ordered.insert, horder, ih hrest.2, lookup_cons_eq, if_neg hdifferent]
      split <;> rfl

theorem Increasing.insertNew [Std.TransOrd κ] {pairs : List (κ × ν)} (hpairs : Increasing pairs)
    (key : κ) (value : ν) : Increasing (insertNew key value pairs) := by
  rw [hpairs.insertNew_eq]
  split
  · exact hpairs
  · exact hpairs.insert key value

/-- The first value that is given for a key stays. -/
theorem Increasing.lookup_insertNew [Std.TransOrd κ] {pairs : List (κ × ν)}
    (hpairs : Increasing pairs) (key other : κ) (value : ν) :
    (Ordered.insertNew key value pairs).lookup other =
      if other = key then (pairs.lookup key).or (some value) else pairs.lookup other := by
  rw [hpairs.insertNew_eq]
  cases hfound : pairs.lookup key with
  | none => simp [lookup_insert]
  | some found =>
    by_cases hsame : other = key
    · simp [hsame, hfound]
    · simp [hsame]

end Lookup

end BinaryLayout.Ordered
