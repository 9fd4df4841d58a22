import BinaryLayout.Artifact
import BinaryLayout.Proofs.HelperText
import BinaryLayout.Proofs.OrderInvariance

/-!
# Helpers Are Defined Once

After a successful build, every helper that the accessor of a field or the text of a helper uses is
defined by exactly one helper, and no two helpers define the same name. This fails in one case only: a
field may refer to a structure whose canonical name is that of a helper type. Its accessor then names
the type, and no helper defines it unless some field has the kind that the helper serves.
-/

namespace BinaryLayout

open Words

namespace Helper

def defined (code : Code) : List (List Char) :=
  definitions 0 (items code.text)

/-- The text calls the helper function of that name, or names the helper type. -/
def UsedIn (code : Code) (name : List Char) : Prop :=
  isFunction name = true ∧ .word name .called ∈ items code.text ∨
    isType name = true ∧ (.word name .called ∈ items code.text ∨ .word name .named ∈ items code.text)

theorem UsedIn.provided {code : Code} {name : List Char} (hused : UsedIn code name)
    {provided : List Char → Prop} (hcode : Rows (Row (Within true provided)) code) : provided name := by
  rw [UsedIn, items_text hcode] at hused
  rcases hused with ⟨hfunction, hcalled⟩ | ⟨htype, hcalled | hnamed⟩
  · exact hcode.words_meet _ hcalled (.inl hfunction)
  · exact hcode.words_meet _ hcalled (.inr htype)
  · exact hcode.words_meet _ hnamed htype

theorem UsedIn.isHelper {code : Code} {name : List Char} (hused : UsedIn code name) :
    isFunction name = true ∨ isType name = true := by
  rcases hused with ⟨hfunction, -⟩ | ⟨htype, -⟩
  · exact .inl hfunction
  · exact .inr htype

/-- A structure never has the name of a helper function. -/
theorem isFunction_canonical (name : String) : isFunction (Name.canonical name).toList = false := by
  have hlower : ∀ function ∈ functions, function.toList.head?.any Char.isLower = true := by decide
  have hcanonical : (Name.canonical name).toList.head?.any Char.isLower = false := by
    cases hhead : (Name.canonical name).toList.head? with
    | none => rfl
    | some head => exact Name.canonical_head_not_lower hhead
  rw [isFunction, Bool.or_eq_false_iff, List.any_eq_false]
  refine ⟨fun function hfunction hsame ↦ ?_, ?_⟩
  · obtain hsame : function.toList = (Name.canonical name).toList := by simpa using hsame
    have hfirst := hlower function hfunction
    rw [hsame, hcanonical] at hfirst
    nomatch hfirst
  · rw [Bool.eq_false_iff]
    intro hfront
    obtain ⟨rest, hrest⟩ := List.isPrefixOf_iff_prefix.mp hfront
    rw [← hrest] at hcanonical
    exact absurd hcanonical (by simp)

end Helper

namespace Kind

variable {options : Options}

/-- Kinds with one identity define the same names. -/
theorem provides_eq_of_identity_eq {first second : Kind} {identity : String}
    (hfirst : first.identity? options = some identity)
    (hsecond : second.identity? options = some identity) :
    first.provides options = second.provides options := by
  have hform : first.form = second.form := by
    rw [← formOfIdentity_identity hfirst, formOfIdentity_identity hsecond]
  have hsame := hfirst.trans hsecond.symm
  cases first with
  | text encoding length =>
    cases second <;> simp only [form, reduceCtorEq, Nat.reduceEqDiff] at hform
    rename_i encoding' length'
    obtain rfl : encoding = encoding' := by
      cases encoding <;> cases encoding' <;> simp [identity?] at hsame ⊢
    cases encoding <;> rfl
  | bitField field => simp [identity?] at hfirst
  | pointer element => simp [identity?] at hfirst
  | reference target => simp [identity?] at hfirst
  | _ =>
    cases second <;> simp only [form, reduceCtorEq, Nat.reduceEqDiff] at hform
    simp_all [identity?, provides]

/-- The kind whose helper defines a type has the name of the type. -/
theorem name_eq_of_provides {kind : Kind} {type : String} (htype : type ∈ Helper.types)
    (hprovides : type ∈ kind.provides options) : kind.name = type := by
  have hletter : ∀ other ∈ Helper.types, other.toList.head? ≠ some 'p' := by decide
  cases kind with
  | integer reader =>
    obtain rfl : type = reader.reader := List.mem_singleton.mp hprovides
    exact absurd (by simp [IntegerType.reader]) (hletter _ htype)
  | array count element =>
    obtain rfl : type = element.arrayReader options := List.mem_singleton.mp hprovides
    exact absurd (by simp [arrayReader]) (hletter _ htype)
  | text encoding length =>
    have hbytes : ∀ other ∈ ["parse_terminated_string", "terminated_string_size", "parse_string"],
        other ∉ Helper.types := by decide
    have hutf16 : ∀ other ∈ Helper.utf16Names, other ∉ Helper.types := by decide
    cases encoding with
    | bytes => exact absurd htype (hbytes type hprovides)
    | utf16 => exact absurd htype (hutf16 type hprovides)
  | enumeration choices => exact (List.mem_singleton.mp hprovides).symm
  | flags names => exact (List.mem_singleton.mp hprovides).symm
  | signature expected =>
    rcases List.mem_cons.mp hprovides with rfl | hfunction
    · rfl
    · rw [List.mem_singleton.mp hfunction] at htype
      exact absurd htype (by decide)
  | _ => simp [provides] at hprovides

theorem provides_name {kind : Kind} (hname : kind.name ∈ Helper.types) :
    kind.name ∈ kind.provides options := by
  cases kind with
  | text encoding length => cases encoding <;> simp [name, Helper.types] at hname
  | _ => simp_all [name, Helper.types, provides]

/-- Only the count of an array that is itself a field is asked for by name. -/
theorem countsNamed_of_nested {kind : Kind} (hnested : kind.nestedSibling? = none)
    (hown : ∀ count element, kind = .array (.sibling count) element →
      Name.isIdentifier count = true) : kind.CountsNamed .accessor := by
  induction kind with
  | array count element _ =>
    cases count with
    | fixed count => trivial
    | sibling field => exact fun _ ↦ hown field element rfl
  | pointer element ih =>
    refine ih ?_ ?_
    · unfold nestedSibling? at hnested
      split at hnested
      · nomatch hnested
      · exact hnested
    · rintro count inner rfl
      nomatch hnested
  | _ => trivial

theorem leaf_of_needs_reference {kind : Kind} {target : String}
    (hneeds : kind.Needs (.reference target)) : kind.leaf = .reference target := by
  induction hneeds using Relation.ReflTransGen.head_induction_on with
  | refl => rfl
  | head hcalls _ ih =>
    rcases calls_cases hcalls with helement | ⟨type, rfl⟩
    · rw [leaf_of_element helement, ih]
    · nomatch ih

end Kind

/-! ## The texts of an artifact -/

namespace Profile

def Reaches (profile : Profile) (needed : Kind) : Prop :=
  ∃ struct ∈ profile.structures, ∃ member ∈ struct.members, member.field.kind.Needs needed

/-- A field refers to a structure that has the name of a helper type, and no field has the kind that
the type stands for. -/
def Dangling (profile : Profile) (name : List Char) : Prop :=
  ∃ type ∈ Helper.types, type.toList = name ∧ profile.Reaches (.reference type) ∧
    ∀ needed, profile.Reaches needed → needed.name ≠ type

def accessors (options : Options) (profile : Profile) : List Code :=
  profile.structures.flatMap fun struct ↦ struct.sortedMembers.map fun member ↦
    member.field.kind.accessorCode options struct.name member.name

namespace Success

variable {options : Options} {spec : Spec} {schema : Schema} {profile : Profile} {after : Context}
  {structs : List Structure}

theorem mem_structures (hsuccess : Success options spec schema profile after structs)
    (struct : Structure) : struct ∈ profile.structures ↔ struct ∈ structs := by
  rw [hsuccess.profile]
  exact List.mem_mergeSort

/-- What occurs at the end of a build is what fields reach. -/
theorem occurs_iff_reaches (hsuccess : Success options spec schema profile after structs)
    (needed : Kind) : Arena.Occurs after.arena needed ↔ profile.Reaches needed := by
  rw [hsuccess.context.occurs]
  simp [Arena.Occurs, Reaches, hsuccess.mem_structures, and_assoc]

theorem isStructName_name (hsuccess : Success options spec schema profile after structs)
    {struct : Structure} (hstruct : struct ∈ structs) :
    isStructName options.profile struct.name = true := by
  have hchosen : struct.schemaName ∈ chosen spec schema.sortedNames := by
    rw [← hsuccess.names]
    exact List.mem_map_of_mem hstruct
  rw [(hsuccess.built struct hstruct).name]
  exact hsuccess.selects.usable _ hchosen

theorem isName_structure (hsuccess : Success options spec schema profile after structs)
    {struct : Structure} (hstruct : struct ∈ structs) : IsName struct.name.toList := by
  have husable := hsuccess.isStructName_name hstruct
  simp only [isStructName, Bool.and_eq_true] at husable
  exact isName_of_isIdentifier husable.1.1

theorem isIdentifier_shape (hsuccess : Success options spec schema profile after structs)
    {struct : Structure} (hstruct : struct ∈ structs) {shape : FieldShape}
    (hshape : shape ∈ struct.shapes) :
    Name.isIdentifier shape.name = true := by
  obtain ⟨entry, -, hdescribes⟩ := (hsuccess.built struct hstruct).described
  obtain ⟨fields, -, -, hshapes⟩ := hdescribes.parts
  rw [hshapes] at hshape
  obtain ⟨⟨name, value⟩, -, hfield⟩ := List.mem_filterMap.mp hshape
  unfold FieldShape.ofField? at hfield
  split at hfield
  · rename_i hidentifier
    split at hfield
    · obtain rfl : _ = shape := Option.some.inj hfield
      exact hidentifier
    · nomatch hfield
  · nomatch hfield

/-- The counts of arrays are fields of the structure, and so identifiers. -/
theorem countsNamed_member (hsuccess : Success options spec schema profile after structs)
    {struct : Structure} (hstruct : struct ∈ structs) {member : Member}
    (hmember : member ∈ struct.members) : member.field.kind.CountsNamed .accessor := by
  obtain ⟨entry, -, hdescribes⟩ := (hsuccess.built struct hstruct).described
  obtain ⟨hnested, hown⟩ := hdescribes.counts member.shape (List.mem_map_of_mem hmember)
  refine Kind.countsNamed_of_nested hnested fun count element hkind ↦ ?_
  obtain ⟨sibling, hfind, -⟩ := hown count element hkind
  have hname : sibling.name = count := by simpa using List.find?_some hfind
  exact hname ▸ hsuccess.isIdentifier_shape hstruct (List.mem_of_find?_eq_some hfind)

theorem isNamed_of_reaches (hsuccess : Success options spec schema profile after structs)
    {needed : Kind} (hreaches : profile.Reaches needed) : needed.IsNamed :=
  hsuccess.sound.named needed ((hsuccess.occurs_iff_reaches needed).mpr hreaches)

/-- The text of an accessor and what it uses. -/
theorem accessor_rows (hsuccess : Success options spec schema profile after structs)
    {struct : Structure} (hstruct : struct ∈ profile.structures) {member : Member}
    (hmember : member ∈ struct.members) :
    Rows (Phrase (Helper.Within true (member.field.kind.Supplies options)))
      (member.field.kind.accessorCode options struct.name member.name) := by
  have hbuilt := (hsuccess.mem_structures struct).mp hstruct
  exact Kind.accessorCode_rows (hsuccess.isName_structure hbuilt)
    (hsuccess.isIdentifier_shape hbuilt (List.mem_map_of_mem hmember))
    (hsuccess.isNamed_of_reaches ⟨struct, hstruct, member, hmember, .refl⟩)
    (hsuccess.countsNamed_member hbuilt hmember)

/-- A helper is that of a kind that is reached, and defines what the kind provides. -/
theorem exists_kind (hsuccess : Success options spec schema profile after structs)
    {helper : String × Code} (hhelper : helper ∈ after.helpers) :
    ∃ kind, profile.Reaches kind ∧ kind.identity? options = some helper.1 ∧
      Helper.Reads (kind.Supplies options) (kind.provides options) helper.2 ∧
      Helper.defined helper.2 = (kind.provides options).map String.toList := by
  obtain ⟨identity, code⟩ := helper
  obtain ⟨kind, hoccurs, hidentity, rfl⟩ := hsuccess.sound.helpers.sound identity code hhelper
  have hreaches := (hsuccess.occurs_iff_reaches kind).mp hoccurs
  have hnamed := hsuccess.isNamed_of_reaches hreaches
  exact ⟨kind, hreaches, hidentity, Kind.helperCode_reads hsuccess.selects.profile hnamed,
    Kind.definitions_helperCode hsuccess.selects.profile hnamed⟩

/-- Where a name is defined says which helper defines it. -/
theorem identity_of_defined (hsuccess : Success options spec schema profile after structs)
    {helper : String × Code} (hhelper : helper ∈ after.helpers) {name : String}
    (hname : name.toList ∈ Helper.defined helper.2) : helper.1 = Helper.owner name := by
  obtain ⟨kind, -, hidentity, -, hdefined⟩ := hsuccess.exists_kind hhelper
  rw [hdefined] at hname
  obtain ⟨other, hother, hsame⟩ := List.mem_map.mp hname
  obtain rfl : other = name := String.toList_injective hsame
  exact Option.some.inj (hidentity.symm.trans (Kind.identity?_of_provides hother))

/-- What a kind provides that is reached is defined by exactly one helper. -/
theorem existsUnique_defining (hsuccess : Success options spec schema profile after structs)
    {kind : Kind} (hreaches : profile.Reaches kind) {name : String}
    (hname : name ∈ kind.provides options) :
    ∃! helper, helper ∈ after.helpers ∧ name.toList ∈ Helper.defined helper.2 := by
  have hidentity := Kind.identity?_of_provides hname
  have hoccurs := (hsuccess.occurs_iff_reaches kind).mpr hreaches
  have hknown := hsuccess.sound.helpers.complete kind _ hoccurs hidentity
  obtain ⟨helper, hhelper, hkey⟩ := List.mem_map.mp hknown
  refine ⟨helper, ⟨hhelper, ?_⟩, ?_⟩
  · obtain ⟨owner, -, howner, -, hdefined⟩ := hsuccess.exists_kind hhelper
    rw [hkey] at howner
    rw [hdefined, Kind.provides_eq_of_identity_eq howner hidentity]
    exact List.mem_map_of_mem hname
  · rintro other ⟨hother, hdefined⟩
    have hsame : other.1 = helper.1 := by
      rw [hsuccess.identity_of_defined hother hdefined, hkey]
    exact List.inj_on_of_nodup_map hsuccess.sound.helpers.ordered.nodup_keys hother hhelper hsame

/-- No name is defined twice. -/
theorem nodup_defined (hsuccess : Success options spec schema profile after structs) :
    (after.helpers.flatMap fun helper ↦ Helper.defined helper.2).Nodup := by
  rw [List.nodup_flatMap]
  constructor
  · intro helper hhelper
    obtain ⟨kind, -, -, -, hdefined⟩ := hsuccess.exists_kind hhelper
    rw [hdefined]
    exact kind.provides_nodup.map fun _ _ hsame ↦ String.toList_injective hsame
  · refine List.Pairwise.imp_of_mem ?_ (List.pairwise_map.mp hsuccess.sound.helpers.ordered.nodup_keys)
    intro first second hfirst hsecond hdifferent name hname hname'
    have howner {helper : String × Code} (hhelper : helper ∈ after.helpers)
        (hdefined : name ∈ Helper.defined helper.2) :
        helper.1 = Helper.owner (String.ofList name) :=
      hsuccess.identity_of_defined hhelper (by rwa [String.toList_ofList])
    exact hdifferent ((howner hfirst hname).trans (howner hsecond hname').symm)

/-- A helper that a reached kind supplies is defined once, unless its name is only that of a
structure. -/
theorem defined_or_dangling (hsuccess : Success options spec schema profile after structs)
    {kind : Kind} (hreaches : profile.Reaches kind) {name : List Char}
    (hsupplies : kind.Supplies options name)
    (hhelper : Helper.isFunction name = true ∨ Helper.isType name = true) :
    (∃! helper, helper ∈ after.helpers ∧ name ∈ Helper.defined helper.2) ∨ profile.Dangling name := by
  obtain ⟨needed, item, hneeds, hitem, rfl⟩ := hsupplies
  obtain ⟨struct, hstruct, member, hmember, hkind⟩ := hreaches
  have hneeded : profile.Reaches needed := ⟨struct, hstruct, member, hmember, hkind.trans hneeds⟩
  rcases hitem with hprovides | rfl
  · exact .inl (hsuccess.existsUnique_defining hneeded hprovides)
  · obtain ⟨-, original, rfl⟩ := hsuccess.isNamed_of_reaches hneeded item rfl
    rw [Helper.isFunction_canonical] at hhelper
    have htype := hhelper.resolve_left (by simp)
    obtain ⟨type, hmem, hsame⟩ := List.any_eq_true.mp htype
    obtain rfl : type = Name.canonical original := String.toList_injective (by simpa using hsame)
    by_cases hserved : ∃ other, profile.Reaches other ∧ other.name = Name.canonical original
    · obtain ⟨other, hother, hname⟩ := hserved
      rw [← hname] at hmem ⊢
      exact .inl (hsuccess.existsUnique_defining hother (Kind.provides_name hmem))
    · exact .inr ⟨_, hmem, rfl, hneeded, fun other hother hname ↦ hserved ⟨other, hother, hname⟩⟩

/-- A dangling name is used by an accessor, and no helper defines it. -/
theorem used_of_dangling (hsuccess : Success options spec schema profile after structs)
    {name : List Char} (hdangling : profile.Dangling name) :
    (∃ code ∈ accessors options profile, Helper.UsedIn code name) ∧
      ∀ helper ∈ after.helpers, name ∉ Helper.defined helper.2 := by
  obtain ⟨type, htype, rfl, ⟨struct, hstruct, member, hmember, hneeds⟩, hnone⟩ := hdangling
  constructor
  · have hbuilt := (hsuccess.mem_structures struct).mp hstruct
    have hnamed := hsuccess.isNamed_of_reaches ⟨struct, hstruct, member, hmember, .refl⟩
    have hidentifier := hsuccess.isIdentifier_shape hbuilt (List.mem_map_of_mem hmember)
    refine ⟨_, List.mem_flatMap.mpr ⟨struct, hstruct,
      List.mem_map_of_mem (List.mem_mergeSort.mpr hmember)⟩, .inr ⟨?_, .inr ?_⟩⟩
    · exact List.any_eq_true.mpr ⟨type, htype, by simp⟩
    · exact Kind.named_accessorCode (hsuccess.isName_structure hbuilt) hidentifier hnamed
        (hsuccess.countsNamed_member hbuilt hmember) (Kind.leaf_of_needs_reference hneeds)
  · intro helper hhelper hdefined
    obtain ⟨kind, hreaches, -, -, hnames⟩ := hsuccess.exists_kind hhelper
    rw [hnames] at hdefined
    obtain ⟨other, hother, hsame⟩ := List.mem_map.mp hdefined
    obtain rfl : other = type := String.toList_injective hsame
    exact hnone kind hreaches (Kind.name_eq_of_provides htype hother)

end Success

/-- Every helper that is used in an accessor or in a helper is defined by exactly one helper, unless
it is a type that is only named as a structure; then it is used and not defined. -/
theorem helpers_defined_once {options : Options} {spec : Spec} {schema : Schema} {profile : Profile}
    {final : Context} (hbuild : (build spec schema).run.run { options } = (.ok profile, final)) :
    (final.helpers.flatMap fun helper ↦ Helper.defined helper.2).Nodup ∧
    (∀ code ∈ accessors options profile ++ final.helpers.map Prod.snd, ∀ name,
      Helper.UsedIn code name →
        (∃! helper, helper ∈ final.helpers ∧ name ∈ Helper.defined helper.2) ∨
          profile.Dangling name) ∧
    (∀ name, profile.Dangling name →
      (∃ code ∈ accessors options profile, Helper.UsedIn code name) ∧
        ∀ helper ∈ final.helpers, name ∉ Helper.defined helper.2) := by
  obtain ⟨structs, hsuccess⟩ := build_ok hbuild
  refine ⟨hsuccess.nodup_defined, ?_, fun name hname ↦ hsuccess.used_of_dangling hname⟩
  intro code hcode name hused
  rcases List.mem_append.mp hcode with haccessor | hhelper
  · obtain ⟨struct, hstruct, hcode⟩ := List.mem_flatMap.mp haccessor
    obtain ⟨member, hmember, rfl⟩ := List.mem_map.mp hcode
    have hmember := List.mem_mergeSort.mp hmember
    have hrows := hsuccess.accessor_rows hstruct hmember
    exact hsuccess.defined_or_dangling ⟨struct, hstruct, member, hmember, .refl⟩
      (hused.provided (hrows.mono fun _ htext ↦ htext.row)) hused.isHelper
  · obtain ⟨helper, hmem, rfl⟩ := List.mem_map.mp hhelper
    obtain ⟨kind, hreaches, -, hreads, -⟩ := hsuccess.exists_kind hmem
    exact hsuccess.defined_or_dangling hreaches (hused.provided hreads.rows) hused.isHelper

/-- The function that decodes an array of enumerations is called by the accessor of its field. -/
theorem helpers_defined_once_file : ∃ final,
    (build Artifact.fileSpec Artifact.fileSchema).run.run { options := {} } =
      (.ok ⟨"Profile", sorted [Artifact.fileStructure]⟩, final) ∧
    ∃! helper, helper ∈ final.helpers ∧
      "parse_array_enum_uint64_37ab2a46".toList ∈ Helper.defined helper.2 := by
  obtain ⟨final, hbuild, -⟩ := Artifact.outcome_fileSchema
  let kind : Kind := .array (.sibling "count") (.enumeration ⟨.w64, [(1, "one")]⟩)
  have hcode : kind.accessorCode {} "File" "items" ∈
      accessors {} ⟨"Profile", sorted [Artifact.fileStructure]⟩ := by
    refine List.mem_flatMap.mpr ⟨Artifact.fileStructure, List.mem_mergeSort.mpr List.mem_cons_self, ?_⟩
    refine List.mem_map.mpr ⟨⟨⟨2, ⟨4, kind, some 1⟩⟩, "items"⟩, List.mem_mergeSort.mpr ?_, rfl⟩
    exact List.mem_cons_of_mem _ List.mem_cons_self
  have hused : Helper.UsedIn (kind.accessorCode {} "File" "items")
      "parse_array_enum_uint64_37ab2a46".toList :=
    .inl ⟨by decide +kernel, by decide +kernel⟩
  obtain ⟨-, hdefined, -⟩ := helpers_defined_once hbuild
  refine ⟨final, hbuild, (hdefined _ (List.mem_append_left _ hcode) _ hused).resolve_right ?_⟩
  rintro ⟨type, htype, hsame, -⟩
  have hother : ∀ other ∈ Helper.types,
      other.toList ≠ "parse_array_enum_uint64_37ab2a46".toList := by decide
  exact hother type htype hsame

def flagsSpec : Spec :=
  { structs := ["S"] }

def flagsSchema : Schema :=
  ⟨[("S", .array [.number (.natural 8),
    .object [("f", .array [.number (.natural 0), .array [.string "flags"]])]])]⟩

def flagsStructure : Structure :=
  ⟨"S", "S", 8, [⟨⟨0, ⟨0, .reference "Flags", none⟩⟩, "f"⟩]⟩

theorem compatible_flagsStructure : Compatible [flagsStructure] :=
  compatible_singleton (by decide +kernel) (by decide +kernel)

/-- The accessor of the field names a helper type that no helper defines. -/
theorem reference_to_helper_type_undefined : ∃ profile final,
    (build flagsSpec flagsSchema).run.run { options := {} } = (.ok profile, final) ∧
    (∃ code ∈ accessors {} profile, Helper.UsedIn code "Flags".toList) ∧
      ¬ ∃ helper ∈ final.helpers, "Flags".toList ∈ Helper.defined helper.2 := by
  have hnames : flagsSchema.sortedNames = ["S"] := List.mergeSort_of_pairwise (by decide +kernel)
  have hstructs : ((buildStructures flagsSpec flagsSchema "Profile" [] ["S"]).outcome
      (start {} flagsSpec flagsSchema)).1.toOption = some [flagsStructure] := by decide +kernel
  have hhelpers : ((buildStructures flagsSpec flagsSchema "Profile" [] ["S"]).outcome
      (start {} flagsSpec flagsSchema)).2.helpers = [] := by decide +kernel
  refine ⟨_, _, outcome_build_of_names rfl hnames hstructs compatible_flagsStructure, ?_, ?_⟩
  · refine ⟨(Kind.reference "Flags").accessorCode {} "S" "f", ?_, .inr ⟨rfl, .inr ?_⟩⟩
    · refine List.mem_flatMap.mpr ⟨flagsStructure, List.mem_mergeSort.mpr List.mem_cons_self, ?_⟩
      exact List.mem_map.mpr ⟨⟨⟨0, ⟨0, .reference "Flags", none⟩⟩, "f"⟩,
        List.mem_mergeSort.mpr List.mem_cons_self, rfl⟩
    · decide +kernel
  · rw [hhelpers]
    simp

end Profile

end BinaryLayout
