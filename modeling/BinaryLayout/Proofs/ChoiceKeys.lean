import BinaryLayout.Proofs.ArenaGrowth
import BinaryLayout.Proofs.ProfileFidelity
import BinaryLayout.Proofs.ValueNames

/-!
# Keys of Choices

The choices of every enumeration that an entry describes, also inside of arrays and pointers, are a map
whose keys are signed 64-bit integers. The keys are bounded because of the number they are read as, and
in order because of the map they are collected in. So values are named by every enumeration of a profile
that is built as they are by a map.
-/

namespace BinaryLayout

namespace Json

namespace Reader

/-- All that the reader can return satisfies the condition. -/
def Returns {α : Type} (reader : Reader α) (condition : α → Prop) : Prop :=
  ∀ cursor value rest, reader cursor = .ok (value, rest) → condition value

theorem returns_true {α : Type} (reader : Reader α) : reader.Returns fun _ ↦ True := by
  intro cursor value rest _
  trivial

theorem returns_pure {α : Type} {value : α} {condition : α → Prop} (hvalue : condition value) :
    (pure value : Reader α).Returns condition := by
  rintro cursor _ rest ⟨⟩
  exact hvalue

theorem returns_error {α : Type} (error : Cursor → Error) (condition : α → Prop) :
    Returns (fun cursor ↦ .error (error cursor)) condition := by
  rintro cursor value rest ⟨⟩

theorem returns_bind {α β : Type} {first : Reader α} {next : α → Reader β} {known : α → Prop}
    {condition : β → Prop} (hfirst : first.Returns known)
    (hnext : ∀ value, known value → (next value).Returns condition) :
    (first >>= next).Returns condition := by
  intro cursor result rest hresult
  change (first cursor >>= fun pair ↦ next pair.1 pair.2) = .ok (result, rest) at hresult
  obtain ⟨⟨value, middle⟩, hread, hresult⟩ := exists_of_bind_eq_ok hresult
  exact hnext value (hfirst _ _ _ hread) _ _ _ hresult

/-- What is read last decides. -/
theorem returns_bind_of_next {α β : Type} {first : Reader α} {next : α → Reader β}
    {condition : β → Prop} (hnext : ∀ value, (next value).Returns condition) :
    (first >>= next).Returns condition :=
  returns_bind first.returns_true fun value _ ↦ hnext value

theorem integer_returns : integer.Returns fun value ↦ -2 ^ 63 ≤ value ∧ value < 2 ^ 63 := by
  unfold integer
  apply returns_bind_of_next
  intro sign
  dsimp only
  split
  -- a sign is passed over, and the rest is the same
  on_goal 1 =>
    apply returns_bind_of_next
    intro _
  all_goals
    apply returns_bind_of_next
    intro found
    split
    · exact returns_error _ _
    · split
      · exact returns_pure ⟨Int64.le_toInt _, Int64.toInt_lt _⟩
      · exact returns_error _ _

theorem integerKey_returns : integerKey.Returns fun value ↦ -2 ^ 63 ≤ value ∧ value < 2 ^ 63 := by
  unfold integerKey
  apply returns_bind_of_next
  intro first
  split
  · split
    · refine returns_bind integer_returns ?_
      intro value hvalue
      apply returns_bind_of_next
      intro next
      dsimp only
      split
      · apply returns_bind_of_next
        intro _
        exact returns_pure hvalue
      · exact returns_pure hvalue
    · exact returns_error _ _
  · exact returns_error _ _

end Reader

theorem parseIntegerKey_bounds {name : String} {key : Int} (hkey : parseIntegerKey name = .ok key) :
    -2 ^ 63 ≤ key ∧ key < 2 ^ 63 := by
  unfold parseIntegerKey StateT.run' at hkey
  cases hread : Reader.integerKey (Cursor.ofText name) with
  | error error =>
    rw [hread] at hkey
    cases hkey
  | ok result =>
    rw [hread] at hkey
    obtain rfl : result.1 = key := Except.ok.inj hkey
    exact Reader.integerKey_returns _ _ _ hread

end Json

namespace Parameters

theorem exists_name_of_mem_pairs {κ ν : Type} {key : String → Except Json.Error κ}
    {value : Json → Except Json.Error ν} {members : List (String × Json)} {found : List (κ × ν)}
    (hfound : pairs key value members = .ok found) {entry : κ × ν} (hentry : entry ∈ found) :
    ∃ name, key name = .ok entry.1 := by
  induction members generalizing found with
  | nil =>
    obtain rfl : [] = found := Except.ok.inj hfound
    simp at hentry
  | cons member rest ih =>
    obtain ⟨first, hfirst, hfound⟩ := exists_of_bind_eq_ok hfound
    obtain ⟨second, -, hfound⟩ := exists_of_bind_eq_ok hfound
    obtain ⟨others, hothers, hfound⟩ := exists_of_bind_eq_ok hfound
    obtain rfl : (first, second) :: others = found := Except.ok.inj hfound
    rcases List.mem_cons.mp hentry with rfl | hrest
    · exact ⟨member.1, hfirst⟩
    · exact ih hothers hrest

/-- The keys of a map are in order, and each is what some name spells. -/
theorem map_increasing {κ ν : Type} [Ord κ] [DecidableEq κ] [Std.TransOrd κ] [Std.LawfulEqOrd κ]
    {key : String → Except Json.Error κ} {value : Json → Except Json.Error ν} {given : Json}
    {found : List (κ × ν)} (hfound : map key value given = .ok found) :
    Ordered.Increasing found ∧ ∀ entry ∈ found, ∃ name, key name = .ok entry.1 := by
  unfold map at hfound
  split at hfound
  · rename_i members
    cases hentries : pairs key value members with
    | error error =>
      rw [hentries] at hfound
      cases hfound
    | ok entries =>
      rw [hentries] at hfound
      obtain rfl : Ordered.ofList entries = found := Except.ok.inj hfound
      refine ⟨Ordered.increasing_ofList entries, ?_⟩
      intro entry hentry
      have hkey := (Ordered.mem_keys_ofList entry.1 entries).mp (List.mem_map_of_mem hentry)
      obtain ⟨other, hother, hsame⟩ := List.mem_map.mp hkey
      rw [← hsame]
      exact exists_name_of_mem_pairs hentries hother
  · cases hfound

theorem eq_or_decode_of_take {α : Type} {origin : Origin} {index : Nat} {name : String}
    {usual found : α} {decode : Json → Except Json.Error α}
    (hfound : origin.take index (.withDefault name usual decode) = .ok found) :
    found = usual ∨ ∃ value, decode value = .ok found := by
  cases origin
  all_goals
    simp only [Origin.take, Slot.ofMembers, Slot.ofItems, Slot.withDefault] at hfound
    split at hfound
    · exact .inr ⟨_, hfound⟩
    · rename_i husual
      obtain rfl : usual = _ := Option.some.inj husual
      exact .inl (Except.ok.inj hfound).symm
    · cases hfound

theorem enumeration_isMap {value : Json} {found : Enumeration}
    (hfound : Parameters.enumeration value = .ok found) : found.IsMap := by
  unfold Parameters.enumeration at hfound
  obtain ⟨origin, -, hbuild⟩ := exists_origin hfound
  obtain ⟨choices, hchoices, hbuild⟩ := exists_of_bind_eq_ok hbuild
  obtain ⟨target, -, hbuild⟩ := exists_of_bind_eq_ok hbuild
  obtain rfl : _ = found := Except.ok.inj hbuild
  rcases eq_or_decode_of_take hchoices with rfl | ⟨given, hgiven⟩
  · exact ⟨.nil, by simp⟩
  · obtain ⟨hincreasing, hkeys⟩ := map_increasing hgiven
    refine ⟨hincreasing, ?_⟩
    intro choice hchoice
    obtain ⟨name, hname⟩ := hkeys choice hchoice
    exact Json.parseIntegerKey_bounds hname

end Parameters

namespace Description

theorem simple_isMap {name : String} {value : Option Json} {found : Description}
    (hfound : simple name value = .ok found) {enumeration : Enumeration}
    (hkind : found.kind = .enumeration enumeration) : enumeration.IsMap := by
  cases simple_of_ok hfound with
  | enumeration hread =>
    obtain rfl : _ = enumeration := Kind.enumeration.inj hkind
    exact Parameters.enumeration_isMap hread
  | _ => cases hkind

theorem ofNameWith_isMap {fuel : Nat} {name : String} {value : Option Json} {found : Description}
    (hfound : ofNameWith fuel name value = .ok found) {enumeration : Enumeration}
    (hleaf : found.kind.leaf = .enumeration enumeration) : enumeration.IsMap := by
  induction fuel generalizing name value found with
  | zero => cases hfound
  | succ fuel ih =>
    rcases ofNameWith_cases hfound with ⟨given, target, inner, -, -, -, hinner, helement⟩ | ⟨-, -, hsimple⟩
    · rw [Kind.leaf_of_element helement] at hleaf
      exact ih hinner hleaf
    · apply simple_isMap hsimple
      have hnone := simple_element hsimple
      cases hkind : found.kind <;> simp_all [Kind.element?, Kind.leaf]

end Description

/-- The enumeration that an accepted entry describes has a map of signed 64-bit integers. -/
theorem Entry.ofJson_isMap {entry : Json} {found : Entry} (hfound : ofJson entry = .ok found)
    {enumeration : Enumeration} (hleaf : found.description.kind.leaf = .enumeration enumeration) :
    enumeration.IsMap := by
  obtain ⟨_, _, _, name, value, -, -, hdescription⟩ := exists_of_ofJson_eq_ok hfound
  exact Description.ofNameWith_isMap hdescription hleaf

/-- So has every enumeration in a profile that is built. -/
theorem Profile.Success.isMap {options : Options} {spec : Spec} {schema : Schema} {profile : Profile}
    {final : Context} {structs : List Structure}
    (hsuccess : Success options spec schema profile final structs) {struct : Structure}
    (hstruct : struct ∈ profile.structures) {member : Member} (hmember : member ∈ struct.members)
    {enumeration : Enumeration} (hleaf : member.field.kind.leaf = .enumeration enumeration) :
    enumeration.IsMap := by
  have hbuilt := hsuccess.built struct ((hsuccess.mem_structures struct).mp hstruct)
  obtain ⟨size, fields, rest, -, -, hfields⟩ := hbuilt.follows
  obtain ⟨field, -, hfollows⟩ := exists_mem_of_forall₂ hfields hmember
  obtain ⟨found, hfound, hkind⟩ := hfollows.kind
  rw [← hkind] at hleaf
  exact Entry.ofJson_isMap hfound hleaf

namespace Decoder

/-- Values are named by an enumeration whose choices are a map, and those of every field of a profile
that is built are one. -/
theorem value_enumeration (decoder : Decoder) (offset : UInt64) :
    (∀ enumeration : Enumeration, enumeration.IsMap → decoder.Enumerates enumeration offset) ∧
    ∀ (options : Options) (spec : Spec) (schema : Schema) (profile : Profile) (final : Context),
      (Profile.build spec schema).run.run { options } = (.ok profile, final) →
      ∀ struct ∈ profile.structures, ∀ member ∈ struct.members, ∀ enumeration,
        member.field.kind.leaf = .enumeration enumeration →
        enumeration.IsMap ∧ decoder.Enumerates enumeration offset := by
  refine ⟨fun enumeration hmap ↦ decoder.enumerates_of_isMap hmap offset, ?_⟩
  intro options spec schema profile final hbuild struct hstruct member hmember enumeration hleaf
  obtain ⟨structs, hsuccess⟩ := Profile.build_ok hbuild
  have hmap := hsuccess.isMap hstruct hmember hleaf
  exact ⟨hmap, decoder.enumerates_of_isMap hmap offset⟩

/-- One byte with two keys for the value 255, and a key past its range; and the enumeration in the array
of a file. -/
theorem value_enumeration_negative :
    (Enumeration.mk .w8 [(-1, "minus one"), (255, "most"), (256, "lost")]).IsMap ∧
    (⟨.ofArray #[255], 0, 0, fun _ ↦ 0⟩ : Decoder).value
      (.enumeration ⟨.w8, [(-1, "minus one"), (255, "most"), (256, "lost")]⟩) 0 =
        .enumeration 255 "minus one" ∧
    (⟨.ofArray #[1, 0, 0, 0, 0, 0, 0, 0], 0, 0, fun _ ↦ 0⟩ : Decoder).value
      (.enumeration ⟨.w64, [(1, "one")]⟩) 0 = .enumeration 1 "one" := by
  have hmap : (Enumeration.mk .w8 [(-1, "minus one"), (255, "most"), (256, "lost")]).IsMap := by
    constructor
    · unfold Ordered.Increasing
      decide
    · simp
  refine ⟨hmap, ?_, ?_⟩
  · obtain ⟨word, hword, hvalue⟩ :=
      ((value_enumeration ⟨.ofArray #[255], 0, 0, fun _ ↦ 0⟩ 0).1 _ hmap).named
    obtain rfl : word = 255 := UInt64.toNat_inj.mp (hword.trans (by decide))
    refine hvalue.trans ?_
    congr 1
  · obtain ⟨final, hbuild, -⟩ := Artifact.outcome_fileSchema
    have hstruct : Artifact.fileStructure ∈ Profile.sorted [Artifact.fileStructure] :=
      List.mem_mergeSort.mpr (List.mem_singleton_self _)
    obtain ⟨-, hnames⟩ := (value_enumeration ⟨.ofArray #[1, 0, 0, 0, 0, 0, 0, 0], 0, 0, fun _ ↦ 0⟩
      0).2 _ _ _ _ final hbuild _ hstruct _ (.tail _ (.head _)) _ rfl
    obtain ⟨word, hword, hvalue⟩ := hnames.named
    obtain rfl : word = 1 := UInt64.toNat_inj.mp (hword.trans (by decide))
    refine hvalue.trans ?_
    congr 1

end Decoder

end BinaryLayout
