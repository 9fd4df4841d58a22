import BinaryLayout.Decode.View
import BinaryLayout.Proofs.ProfileFidelity

/-!
# Changing an Offset

The offset of one field of a profile can be changed. No other field is read differently, apart from the
arrays of the same structure that take their count from the field. The field itself is read at the new
offset, and these arrays take the count that is read there.
-/

namespace BinaryLayout

/-- Looking for a name finds the only entry that has it. -/
theorem find?_name_eq_some {α : Type} (name : α → String) {entries : List α}
    (hnames : (entries.map name).Nodup) {entry : α} (hentry : entry ∈ entries) :
    entries.find? (name · == name entry) = some entry := by
  have hsome : (entries.find? (name · == name entry)).isSome :=
    List.find?_isSome.mpr ⟨entry, hentry, beq_self_eq_true (name entry)⟩
  obtain ⟨found, hfound⟩ := Option.isSome_iff_exists.mp hsome
  have hname : name found = name entry := by simpa using List.find?_some hfound
  rw [hfound, List.inj_on_of_nodup_map hnames (List.mem_of_find?_eq_some hfound) hentry hname]

namespace Profile.Success

variable {options : Options} {spec : Spec} {schema : Schema} {profile : Profile} {final : Context}
  {structs : List Structure} {struct struct' : Structure} {member member' : Member}

theorem structure?_eq_some (hsuccess : Success options spec schema profile final structs)
    (hstruct : struct ∈ profile.structures) : profile.structure? struct.name = some struct :=
  find?_name_eq_some Structure.name hsuccess.nodup_structures hstruct

theorem member?_eq_some (hsuccess : Success options spec schema profile final structs)
    (hstruct : struct ∈ profile.structures) (hmember : member ∈ struct.members) :
    struct.member? member.name = some member :=
  find?_name_eq_some Member.name (hsuccess.nodup_members hstruct) hmember

/-- The name of an offset leads to one field only. -/
theorem eq_of_offsetName_eq (hsuccess : Success options spec schema profile final structs)
    (hstruct : struct ∈ profile.structures) (hmember : member ∈ struct.members)
    (hstruct' : struct' ∈ profile.structures) (hmember' : member' ∈ struct'.members)
    (hname : Code.offsetName struct.name member.name = Code.offsetName struct'.name member'.name) :
    struct = struct' ∧ member = member' := by
  have hnames : ((profile.structures.flatMap fun struct ↦ struct.members.map (Prod.mk struct)).map
      fun pair ↦ Code.offsetName pair.1.name pair.2.name).Nodup := by
    rw [List.map_flatMap]
    simpa only [offsetNames, List.map_map, Function.comp_def] using hsuccess.nodup_offsetNames
  have hmem {struct : Structure} {member : Member} (hstruct : struct ∈ profile.structures)
      (hmember : member ∈ struct.members) :
      (struct, member) ∈ profile.structures.flatMap fun struct ↦ struct.members.map (Prod.mk struct) :=
    List.mem_flatMap.mpr ⟨struct, hstruct, List.mem_map_of_mem hmember⟩
  exact Prod.mk.inj
    (List.inj_on_of_nodup_map hnames (hmem hstruct hmember) (hmem hstruct' hmember') hname)

/-- An array does not take its count from itself. -/
theorem count_ne_name (hsuccess : Success options spec schema profile final structs)
    (hstruct : struct ∈ profile.structures) (hmember : member ∈ struct.members) {count : String}
    {element : Kind} (hkind : member.field.kind = .array (.sibling count) element) :
    count ≠ member.name := by
  rintro rfl
  obtain ⟨entry, -, hdescribes⟩ :=
    (hsuccess.built struct ((hsuccess.mem_structures struct).mp hstruct)).described
  have hnone := (Structure.countErrors_eq_none_iff struct).mpr hdescribes.counts
  obtain ⟨-, hcount⟩ := (Structure.countError?_eq_none_iff struct member).mp
    (List.findSome?_eq_none_iff.mp hnone member hmember)
  obtain ⟨sibling, hsibling, hinteger⟩ := hcount member.name element hkind
  rw [hsuccess.member?_eq_some hstruct hmember] at hsibling
  obtain rfl := Option.some.inj hsibling
  simp [hkind, Structure.isCount] at hinteger

end Profile.Success

namespace View

/-! ## Views with one offset changed -/

/-- The view with the offset of a field changed, if there is such an offset. -/
def set? (view : View) (struct field : String) (value : UInt64) : Option View :=
  (view.offsets.change? (Code.offsetName struct field) value).map fun offsets ↦ { view with offsets }

/-- The view reads with the profile, whatever the values of its offsets have become. -/
structure Of (profile : Profile) (view : View) : Prop where
  reads : view.profile = profile
  names : view.offsets.map Prod.fst = (Offsets.ofProfile profile).map Prod.fst

theorem of_ofProfile (options : Options) (profile : Profile) (source : Source) :
    Of profile (ofProfile options profile source) where
  reads := rfl
  names := rfl

/-- The value of a field, read at the given position. The count of an array is that of the structure. -/
def valueAt (view : View) (struct : Structure) (base : UInt64) (member : Member) (position : UInt64) :
    Value :=
  match member.field.kind with
  | .array (.sibling field) element =>
    view.decoder.array element (view.siblingCount struct base field) position
  | kind => view.decoder.value kind position

theorem memberValue_eq (view : View) (struct : Structure) (base : UInt64) (member : Member) :
    view.memberValue struct base member =
      view.valueAt struct base member (view.position struct member.name base) :=
  rfl

variable {view after : View} {struct field : String} {value : UInt64}

theorem offsets_of_set? (hset : view.set? struct field value = some after) :
    after = { view with
      offsets := view.offsets.map fun pair ↦
        (pair.1, if pair.1 = Code.offsetName struct field then value else pair.2) } := by
  unfold set? Offsets.change? at hset
  split at hset
  · cases hset
  · exact (Option.some.inj hset).symm

theorem decoder_of_set? (hset : view.set? struct field value = some after) :
    after.decoder = view.decoder := by
  rw [offsets_of_set? hset]
  rfl

theorem Of.set? {profile : Profile} (hview : Of profile view)
    (hset : view.set? struct field value = some after) : Of profile after := by
  rw [offsets_of_set? hset]
  refine ⟨hview.reads, ?_⟩
  rw [← hview.names, List.map_map]
  rfl

theorem lookup_of_set? (hset : view.set? struct field value = some after) (name : String) :
    after.offsets.lookup name = (view.offsets.lookup name).map fun old ↦
      if name = Code.offsetName struct field then value else old := by
  rw [offsets_of_set? hset]
  exact Ordered.lookup_map (fun other old ↦ if other = Code.offsetName struct field then value else old)
    name view.offsets

theorem position_of_ne (hset : view.set? struct field value = some after) {other : Structure}
    {name : String} (hname : Code.offsetName other.name name ≠ Code.offsetName struct field)
    (base : UInt64) : after.position other name base = view.position other name base := by
  unfold position
  rw [lookup_of_set? hset]
  simp [hname]

theorem siblingCount_of_ne (hset : view.set? struct field value = some after) {other : Structure}
    {name : String} (hname : ∀ sibling, other.member? name = some sibling →
      Code.offsetName other.name name ≠ Code.offsetName struct field) (base : UInt64) :
    after.siblingCount other base name = view.siblingCount other base name := by
  unfold siblingCount
  rw [decoder_of_set? hset]
  split
  · rename_i sibling hsibling
    rw [position_of_ne hset (hname sibling hsibling)]
  · rfl

/-- A value is read as before at a position if the count that it takes is. -/
theorem valueAt_of_count (hset : view.set? struct field value = some after) {other : Structure}
    {member : Member} {base : UInt64} (hcount : ∀ count element,
      member.field.kind = .array (.sibling count) element →
      after.siblingCount other base count = view.siblingCount other base count) (position : UInt64) :
    after.valueAt other base member position = view.valueAt other base member position := by
  unfold valueAt
  rw [decoder_of_set? hset]
  split
  · rename_i count element hkind
    rw [hcount count element hkind]
  · rfl

end View

namespace Profile.Success

open View (Of)

variable {options : Options} {spec : Spec} {schema : Schema} {profile : Profile} {final : Context}
  {structs : List Structure} {struct other : Structure} {member field : Member}
  {view after : View} {value : UInt64}

theorem get?_eq_some (hsuccess : Success options spec schema profile final structs)
    (hview : Of profile view) (hstruct : struct ∈ profile.structures)
    (hmember : member ∈ struct.members)
    (base : UInt64) :
    view.get? struct.name base member.name = some (view.memberValue struct base member) := by
  simp [View.get?, hview.reads, hsuccess.structure?_eq_some hstruct,
    hsuccess.member?_eq_some hstruct hmember]

theorem isSome_lookup_offset (hview : Of profile view) (hstruct : struct ∈ profile.structures)
    (hmember : member ∈ struct.members) :
    (view.offsets.lookup (Code.offsetName struct.name member.name)).isSome := by
  have hname : Code.offsetName struct.name member.name ∈ view.offsets.map Prod.fst := by
    rw [hview.names, Offsets.ofProfile, List.map_map]
    exact List.mem_map_of_mem (mem_offsets hstruct hmember)
  simpa using hname

theorem exists_set? (hview : Of profile view) (hstruct : struct ∈ profile.structures)
    (hmember : member ∈ struct.members) (value : UInt64) :
    ∃ after, view.set? struct.name member.name value = some after := by
  have hsome := isSome_lookup_offset hview hstruct hmember
  simp [View.set?, Offsets.change?, Option.isNone_iff_eq_none, Option.ne_none_iff_isSome.mpr hsome]

theorem position_eq (hview : Of profile view) (hstruct : struct ∈ profile.structures)
    (hmember : member ∈ struct.members)
    (hset : view.set? struct.name member.name value = some after) (base : UInt64) :
    after.position struct member.name base = value + base := by
  obtain ⟨old, hold⟩ := Option.isSome_iff_exists.mp (isSome_lookup_offset hview hstruct hmember)
  simp [View.position, View.lookup_of_set? hset, hold]

/-- Another field has another offset. -/
theorem offsetName_ne (hsuccess : Success options spec schema profile final structs)
    (hstruct : struct ∈ profile.structures) (hmember : member ∈ struct.members)
    (hother : other ∈ profile.structures) (hfield : field ∈ other.members)
    (hne : (other.name, field.name) ≠ (struct.name, member.name)) :
    Code.offsetName other.name field.name ≠ Code.offsetName struct.name member.name := by
  intro hname
  obtain ⟨rfl, rfl⟩ := hsuccess.eq_of_offsetName_eq hother hfield hstruct hmember hname
  exact hne rfl

/-- A count that another field than the changed one gives stays. -/
theorem siblingCount_eq (hsuccess : Success options spec schema profile final structs)
    (hstruct : struct ∈ profile.structures) (hmember : member ∈ struct.members)
    (hset : view.set? struct.name member.name value = some after)
    (hother : other ∈ profile.structures) {count : String}
    (hne : (other.name, count) ≠ (struct.name, member.name)) (base : UInt64) :
    after.siblingCount other base count = view.siblingCount other base count := by
  apply View.siblingCount_of_ne hset
  intro sibling hsibling
  obtain rfl : sibling.name = count := by simpa using List.find?_some hsibling
  exact hsuccess.offsetName_ne hstruct hmember hother (List.mem_of_find?_eq_some hsibling) hne

/-- A field keeps its value if neither its offset nor that of its count is changed. -/
theorem memberValue_eq (hsuccess : Success options spec schema profile final structs)
    (hstruct : struct ∈ profile.structures) (hmember : member ∈ struct.members)
    (hset : view.set? struct.name member.name value = some after)
    (hother : other ∈ profile.structures) (hfield : field ∈ other.members)
    (hne : (other.name, field.name) ≠ (struct.name, member.name))
    (hcount : other.name = struct.name → ∀ element,
      field.field.kind ≠ .array (.sibling member.name) element) (base : UInt64) :
    after.memberValue other base field = view.memberValue other base field := by
  have hposition := View.position_of_ne hset
    (hsuccess.offsetName_ne hstruct hmember hother hfield hne) base
  rw [View.memberValue_eq, View.memberValue_eq, hposition]
  apply View.valueAt_of_count hset
  intro count element hkind
  apply hsuccess.siblingCount_eq hstruct hmember hset hother
  intro hsame
  obtain ⟨hname, rfl⟩ := Prod.mk.inj hsame
  exact hcount hname element hkind

/-- The changed field is read at its new offset, with the count that it had if it is an array. -/
theorem memberValue_set (hsuccess : Success options spec schema profile final structs)
    (hview : Of profile view) (hstruct : struct ∈ profile.structures)
    (hmember : member ∈ struct.members)
    (hset : view.set? struct.name member.name value = some after) (base : UInt64) :
    after.memberValue struct base member = view.valueAt struct base member (value + base) := by
  rw [View.memberValue_eq, position_eq hview hstruct hmember hset]
  apply View.valueAt_of_count hset
  intro count element hkind
  apply hsuccess.siblingCount_eq hstruct hmember hset hstruct
  intro hsame
  exact hsuccess.count_ne_name hstruct hmember hkind (Prod.mk.inj hsame).2

/-- An array that the changed field counts stays where it is and takes the count that is read there. -/
theorem memberValue_counted (hsuccess : Success options spec schema profile final structs)
    (hview : Of profile view) (hstruct : struct ∈ profile.structures)
    (hmember : member ∈ struct.members)
    (hset : view.set? struct.name member.name value = some after) (hfield : field ∈ struct.members)
    {element : Kind} (hkind : field.field.kind = .array (.sibling member.name) element)
    (base : UInt64) :
    after.memberValue struct base field =
      view.decoder.array element (view.decoder.value member.field.kind (value + base)).asCount
        (view.position struct field.name base) := by
  have hne : (struct.name, field.name) ≠ (struct.name, member.name) := fun hsame ↦
    hsuccess.count_ne_name hstruct hfield hkind (Prod.mk.inj hsame).2.symm
  have hposition := View.position_of_ne hset
    (hsuccess.offsetName_ne hstruct hmember hstruct hfield hne) base
  have hcount : after.siblingCount struct base member.name =
      (view.decoder.value member.field.kind (value + base)).asCount := by
    unfold View.siblingCount
    rw [hsuccess.member?_eq_some hstruct hmember, View.decoder_of_set? hset]
    simp only [position_eq hview hstruct hmember hset]
  simp only [View.memberValue, hkind, hcount, hposition, View.decoder_of_set? hset]

end Profile.Success

namespace View

/-- Changing the offset of one field. The view may have had offsets changed before. -/
theorem get?_set {options : Options} {spec : Spec} {schema : Schema} {profile : Profile}
    {final : Context}
    (hbuild : (Profile.build spec schema).run.run { options } = (.ok profile, final))
    {view : View} (hview : Of profile view) {struct : Structure} (hstruct : struct ∈ profile.structures)
    {member : Member} (hmember : member ∈ struct.members) (value : UInt64) :
    ∃ after, view.set? struct.name member.name value = some after ∧ Of profile after ∧
      (∀ other ∈ profile.structures, ∀ field ∈ other.members,
        (other.name, field.name) ≠ (struct.name, member.name) →
        (other.name = struct.name → ∀ element,
          field.field.kind ≠ .array (.sibling member.name) element) →
        ∀ base, ∃ decoded, view.get? other.name base field.name = some decoded ∧
          after.get? other.name base field.name = some decoded) ∧
      (∀ base, after.get? struct.name base member.name =
        some (view.valueAt struct base member (value + base))) ∧
      ∀ field ∈ struct.members, ∀ element,
        field.field.kind = .array (.sibling member.name) element → ∀ base,
          after.get? struct.name base field.name =
            some (view.decoder.array element
              (view.decoder.value member.field.kind (value + base)).asCount
              (view.position struct field.name base)) := by
  obtain ⟨structs, hsuccess⟩ := Profile.build_ok hbuild
  obtain ⟨after, hset⟩ := Profile.Success.exists_set? hview hstruct hmember value
  have hafter := hview.set? hset
  refine ⟨after, hset, hafter, ?_, ?_, ?_⟩
  · intro other hother field hfield hne hcount base
    refine ⟨_, hsuccess.get?_eq_some hview hother hfield base, ?_⟩
    rw [hsuccess.get?_eq_some hafter hother hfield,
      hsuccess.memberValue_eq hstruct hmember hset hother hfield hne hcount]
  · intro base
    rw [hsuccess.get?_eq_some hafter hstruct hmember,
      hsuccess.memberValue_set hview hstruct hmember hset]
  · intro field hfield element hkind base
    rw [hsuccess.get?_eq_some hafter hstruct hfield,
      hsuccess.memberValue_counted hview hstruct hmember hset hfield hkind]

def twoCounts : Source :=
  Source.ofArray #[1, 0, 0, 0, 2, 0, 0, 0, 0, 0, 0, 0]

theorem get?_set_file :
    ∃ final after, (Profile.build Artifact.fileSpec Artifact.fileSchema).run.run { options := {} } =
        (.ok ⟨"Profile", Profile.sorted [Artifact.fileStructure]⟩, final) ∧
      (ofProfile {} ⟨"Profile", Profile.sorted [Artifact.fileStructure]⟩ twoCounts).set?
        "File" "count" 4 = some after ∧
      after.get? "File" 0 "count" = some (.integer ⟨.w32, false⟩ 2) ∧
      (after.get? "File" 0 "items").map Value.count = some 2 := by
  obtain ⟨final, hbuild, -⟩ := Artifact.outcome_fileSchema
  have hstruct : Artifact.fileStructure ∈ Profile.sorted [Artifact.fileStructure] :=
    List.mem_mergeSort.mpr (List.mem_singleton_self _)
  obtain ⟨after, hset, -, -, hself, hcounted⟩ :=
    get?_set hbuild (of_ofProfile {} _ twoCounts) hstruct (.head _) 4
  refine ⟨final, after, hbuild, hset, (hself 0).trans ?_, ?_⟩
  · rfl
  · exact (congrArg (Option.map Value.count) (hcounted _ (.tail _ (.head _)) _ rfl 0)).trans rfl

end View

end BinaryLayout
