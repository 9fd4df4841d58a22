import BinaryLayout.Proofs.FieldReads
import BinaryLayout.Proofs.HelpersDefined

/-!
# Profiles Hold What Schemas Say

A profile that is built has the selected structures of the schema, each with the fields that are kept,
and no two of its names clash. The offset that the schema writes for a field is the one that the
profile starts with, under a name of its own, and the accessor of the field reads that name alone.
-/

namespace BinaryLayout

namespace Context

def Numbers (context : Context) (members : List Member) : Prop :=
  ∀ member ∈ members, context.arena[member.number]? = some member.field

theorem Numbers.mono {before after : Context} {members : List Member} (hbefore : before.Numbers members)
    (hextends : Arena.Extends before.arena after.arena) : after.Numbers members :=
  fun member hmember ↦ hextends _ _ (hbefore member hmember)

end Context

/-- Fields that are built later leave the numbers of earlier ones alone. -/
theorem Structure.MembersBuilt.numbered {spec : Spec} {schemaName : String}
    {fields : List (String × Json)} {members : List Member} {context after : Context}
    (hbuilt : MembersBuilt spec schemaName fields context members after) :
    Arena.Extends context.arena after.arena ∧ after.Numbers members := by
  induction hbuilt with
  | nil context => exact ⟨.refl _, List.forall_mem_nil _⟩
  | passed entry _ _ ih =>
    -- Reporting the field that is left out does not touch the arena.
    exact ih
  | @installed _ _ _ context _ _ found outside _ _ _ _ ih =>
    obtain ⟨hinstalled, hnumber⟩ :=
      Context.install_numbered outside found.description.kind found.offset context
    obtain ⟨hextends, htail⟩ := ih
    exact ⟨hinstalled.trans hextends, List.forall_mem_cons.mpr ⟨hextends _ _ hnumber, htail⟩⟩

theorem Profile.StructuresBuilt.numbered {spec : Spec} {schema : Schema} {profile : String}
    {names : List String} {taken : List (String × String)} {structs : List Structure}
    {context after : Context}
    (hbuilt : StructuresBuilt spec schema profile taken names context structs after) :
    Arena.Extends context.arena after.arena ∧ ∀ struct ∈ structs, after.Numbers struct.members := by
  induction hbuilt with
  | nil taken context => exact ⟨.refl _, List.forall_mem_nil _⟩
  | passed _ _ ih => exact ih
  | built _ _ _ _ hstruct _ ih =>
    obtain ⟨size, fields, members, -, hmembers, rfl, -⟩ := Structure.exists_membersBuilt hstruct
    obtain ⟨hfirst, hnumbers⟩ := hmembers.numbered
    obtain ⟨hextends, hothers⟩ := ih
    exact ⟨hfirst.trans hextends, List.forall_mem_cons.mpr ⟨hnumbers.mono hextends, hothers⟩⟩

/-- The field has the name and the kind of an entry, and the offset that is written first in it. -/
structure Member.Follows (member : Member) (field : String × Json) : Prop where
  name : member.name = field.1
  offset : ∃ offset kind rest, field.2 = .array (offset :: kind :: rest) ∧
    offset.natural? = some member.field.offset
  kind : ∃ found, Entry.ofJson field.2 = .ok found ∧ found.description.kind = member.field.kind

theorem Member.follows_of_shape {member : Member} {field : String × Json}
    (hshape : FieldShape.ofField? field = some member.shape) : member.Follows field := by
  unfold FieldShape.ofField? at hshape
  split at hshape
  · split at hshape
    · rename_i found hfound
      obtain ⟨hname, hoffset, hkind⟩ : field.1 = member.name ∧ found.offset = member.field.offset ∧
          found.description.kind = member.field.kind := by
        simpa [Member.shape] using hshape
      obtain ⟨offset, kind, rest, -, -, hentry, hposition, -⟩ := Entry.exists_of_ofJson_eq_ok hfound
      exact ⟨hname.symm, ⟨offset, kind, rest, hentry, hoffset ▸ hposition⟩, found, hfound, hkind⟩
    · cases hshape
  · cases hshape

namespace Structure

theorem exists_fields {schemaName : String} {entry : Json} {bytes : UInt64}
    {fields : List (String × Json)} (hparts : entryParts schemaName entry = .ok (bytes, fields)) :
    ∃ size rest, entry = .array (size :: .object fields :: rest) ∧ size.natural? = some bytes := by
  unfold entryParts at hparts
  split at hparts
  · rename_i size members rest
    cases members with
    | object members =>
      cases hsize : size.natural? with
      | none => simp [hsize] at hparts
      | some found =>
        obtain ⟨rfl, rfl⟩ : found = bytes ∧ members = fields := by
          simpa [hsize, Json.object?] using hparts
        exact ⟨size, rest, rfl, hsize⟩
    | _ => cases hsize : size.natural? <;> simp [hsize, Json.object?] at hparts
  · cases hparts

/-- The structure has the size and the fields of its entry, those that are kept and in their order. -/
def Follows (spec : Spec) (schema : Schema) (struct : Structure) : Prop :=
  ∃ size fields rest, schema.entry? struct.schemaName = some (.array (size :: .object fields :: rest)) ∧
    size.natural? = some struct.size ∧
    List.Forall₂ Member.Follows struct.members (kept spec struct.schemaName fields)

end Structure

namespace Profile

theorem Built.follows {spec : Spec} {schema : Schema} {struct : Structure}
    (hbuilt : Built spec schema struct) : struct.Follows spec schema := by
  obtain ⟨entry, hentry, hdescribes⟩ := hbuilt.described
  obtain ⟨fields, hparts, hall, hshapes⟩ := hdescribes.parts
  obtain ⟨size, rest, rfl, hsize⟩ := Structure.exists_fields hparts
  refine ⟨size, fields, rest, hentry, hsize, ?_⟩
  have hmap : struct.members.map (fun member ↦ some member.shape) =
      (Structure.kept spec struct.schemaName fields).map FieldShape.ofField? := by
    have hsome : struct.members.map (fun member ↦ some member.shape) = struct.shapes.map some := by
      rw [Structure.shapes, List.map_map]
      rfl
    rw [hsome, hshapes, List.map_filterMap_some_eq_filter_map_isSome, List.filter_eq_self]
    exact List.forall_mem_map.mpr hall
  rw [← List.forall₂_eq_eq_eq, List.forall₂_map_left_iff, List.forall₂_map_right_iff] at hmap
  exact hmap.imp fun member field hshape ↦ Member.follows_of_shape hshape.symm

end Profile

theorem Name.escaped_inj {first second : String} (hfirst : isIdentifier first = true)
    (hsecond : isIdentifier second = true) (hsame : escaped first = escaped second) :
    first = second := by
  have hmark {name : String} (hname : isIdentifier name = true) : '#' ∉ name.toList :=
    fun hmem ↦ absurd ((Words.isName_of_isIdentifier hname).characters '#' hmem) (by decide)
  unfold escaped at hsame
  split at hsame <;> split at hsame
  · exact String.append_right_inj _ |>.mp hsame
  · exact absurd (by simp [← hsame]) (hmark hsecond)
  · exact absurd (by simp [hsame]) (hmark hfirst)
  · exact hsame

namespace Schema

def writtenOffset? (schema : Schema) (struct field : String) : Option UInt64 :=
  match schema.entry? struct with
  | some (.array (_ :: .object fields :: _)) =>
    match fields.lookup field with
    | some (.array (offset :: _)) => offset.natural?
    | _ => none
  | _ => none

end Schema

namespace Structure

theorem Follows.names {members : List Member} {fields : List (String × Json)}
    (hfields : List.Forall₂ Member.Follows members fields) :
    members.map Member.name = fields.map Prod.fst := by
  induction hfields with
  | nil => rfl
  | cons hfield _ ih => rw [List.map_cons, List.map_cons, hfield.name, ih]

/-- The offset of a field is the one that is written for it. -/
theorem Follows.writtenOffset? {spec : Spec} {schema : Schema} {struct : Structure}
    (hfollows : struct.Follows spec schema) (hnames : (struct.members.map Member.name).Nodup)
    {member : Member} (hmember : member ∈ struct.members) :
    schema.writtenOffset? struct.schemaName member.name = some member.field.offset := by
  obtain ⟨size, fields, rest, hentry, -, hfields⟩ := hfollows
  rw [Follows.names hfields] at hnames
  obtain ⟨⟨name, value⟩, hfield, hfollows⟩ := exists_mem_of_forall₂ hfields hmember
  obtain ⟨offset, kind, others, rfl, hoffset⟩ := hfollows.offset
  have hlookup : fields.lookup member.name = some (.array (offset :: kind :: others)) := by
    rw [hfollows.name, ← Ordered.lookup_filter (List.mem_filter.mp hfield).2 fields]
    exact Ordered.lookup_eq_some_of_mem hnames hfield
  simp only [Schema.writtenOffset?, hentry, hlookup, hoffset]

end Structure

/-! ## Parts of an artifact -/

namespace Code

def PartOf (piece code : Code) : Prop :=
  ∃ front back : String, code.text = front ++ piece.text ++ back

theorem text_append (first second : Code) : (first ++ second).text = first.text ++ second.text := by
  have hlines : (first ++ second).lines = first.lines ++ second.lines := rfl
  rw [text, hlines, List.map_append, String.join_append]
  rfl

theorem partOf_of_infix {piece code : Code} (hlines : piece.lines <:+: code.lines) :
    piece.PartOf code := by
  obtain ⟨front, back, hlines⟩ := hlines
  have hcode : code = (⟨front⟩ : Code) ++ piece ++ (⟨back⟩ : Code) := by
    obtain ⟨lines⟩ := code
    exact congrArg Code.mk hlines.symm
  exact ⟨(⟨front⟩ : Code).text, (⟨back⟩ : Code).text, by rw [hcode, text_append, text_append]⟩

theorem infix_join {piece : Code} {pieces : List Code} (hpiece : piece ∈ pieces) :
    piece.lines <:+: (join pieces).lines :=
  List.infix_of_mem_flatten (List.mem_map_of_mem hpiece)

theorem infix_block {piece : Code} {body : List Code} (hpiece : piece ∈ body)
    (head tail : List Part) : (piece.indented 4).lines <:+: (block head body tail).lines := by
  have hbody : (piece.indented 4).lines <:+: ((join body).indented 4).lines :=
    (infix_join hpiece).map _
  exact hbody.trans (List.infix_append _ _ _)

end Code

namespace Artifact

theorem infix_separated {piece : Code} : ∀ {pieces : List Code}, piece ∈ pieces →
    piece.lines <:+: (separated pieces).lines
  | [_], hpiece => by
    rw [List.mem_singleton.mp hpiece]
    exact List.infix_rfl
  | first :: second :: rest, hpiece => by
    change piece.lines <:+: first.lines ++ Code.blank.lines ++ (separated (second :: rest)).lines
    rcases List.mem_cons.mp hpiece with rfl | hrest
    · exact ((List.prefix_append _ _).trans (List.prefix_append _ _)).isInfix
    · exact (infix_separated hrest).trans (List.suffix_append _ _).isInfix

theorem accessor_partOf (context : Context) {profile : Profile} {struct : Structure}
    (hstruct : struct ∈ profile.structures) {member : Member} (hmember : member ∈ struct.members) :
    (member.field.kind.accessorCode context.options struct.name member.name).PartOf
      (code context profile) := by
  have hsorted : member ∈ struct.sortedMembers := List.mem_mergeSort.mpr hmember
  have haccessors : (member.field.kind.accessorCode context.options struct.name member.name).lines <:+:
      (accessors context.options struct).lines := by
    have hown : (member.field.kind.accessorCode context.options struct.name member.name).lines <:+:
        (separated (struct.sortedMembers.map fun member ↦
          member.field.kind.accessorCode context.options struct.name member.name)).lines :=
      infix_separated (List.mem_map.mpr ⟨member, hsorted, rfl⟩)
    rw [accessors, if_neg (by simpa using List.ne_nil_of_mem hsorted)]
    exact hown.trans (Code.infix_join (by simp))
  have hstructure : (accessors context.options struct).lines <:+:
      (structureCode context.options profile struct).lines :=
    List.infix_append _ _ _
  refine Code.partOf_of_infix ((haccessors.trans hstructure).trans (Code.infix_join ?_))
  simp only [List.mem_append, List.mem_map]
  exact .inl (.inr ⟨struct, hstruct, rfl⟩)

theorem constructor_partOf (context : Context) (profile : Profile) :
    ((constructor profile).indented 4).PartOf (code context profile) := by
  have hprofile : ((constructor profile).indented 4).lines <:+: (profileCode profile).lines := by
    have hblock : ((constructor profile).indented 4).lines <:+:
        (Code.block [.text ("impl " ++ profile.name)] (constructor profile ::
          profile.structures.map fun struct ↦ .blank ++ factory struct)).lines :=
      Code.infix_block List.mem_cons_self _ _
    exact hblock.trans (Code.infix_join (by simp))
  exact Code.partOf_of_infix (hprofile.trans (Code.infix_join (by simp)))

def constructorText (offsets : List (String × UInt64)) : String :=
  "    pub fn new() -> Self \x7b\n        Self \x7b\n" ++
    String.join (offsets.map fun (name, value) ↦
      "            " ++ name ++ ": " ++ toString value.toNat ++ ",\n") ++
    "        \x7d\n    \x7d\n"

theorem constructor_indented (profile : Profile) : (constructor profile).indented 4 =
    (⟨[⟨4, [.text "pub fn new() -> Self", .text " \x7b"]⟩, ⟨8, [.text "Self", .text " \x7b"]⟩]⟩ : Code) ++
      ⟨profile.offsets.map fun ((owner, field), value) ↦
        ⟨12, [.offset owner field, .text (": " ++ toString value.toNat ++ ",")]⟩⟩ ++
      ⟨[⟨8, [.text "\x7d"]⟩, ⟨4, [.text "\x7d"]⟩]⟩ := by
  have hlines (first second : Code) : first ++ second = ⟨first.lines ++ second.lines⟩ := rfl
  simp [constructor, Code.block, Code.indented, Code.join, Code.line, hlines, List.flatMap_map,
    Function.comp_def, ← List.map_eq_flatMap]

theorem text_constructor (profile : Profile) : ((constructor profile).indented 4).text =
    constructorText (profile.offsets.map fun ((owner, field), value) ↦
      (Code.offsetName owner field, value)) := by
  have hfront : (⟨[⟨4, [.text "pub fn new() -> Self", .text " \x7b"]⟩,
      ⟨8, [.text "Self", .text " \x7b"]⟩]⟩ : Code).text =
        "    pub fn new() -> Self \x7b\n        Self \x7b\n" := by decide +kernel
  have hback : (⟨[⟨8, [.text "\x7d"]⟩, ⟨4, [.text "\x7d"]⟩]⟩ : Code).text =
      "        \x7d\n    \x7d\n" := by decide +kernel
  have hindent : Code.spaces 12 = "            " := by decide +kernel
  have hline (owner field : String) (value : UInt64) :
      (⟨12, [.offset owner field, .text (": " ++ toString value.toNat ++ ",")]⟩ : Code.Line).render ++
        "\n" = "            " ++ Code.offsetName owner field ++ ": " ++ toString value.toNat ++ ",\n" := by
    simp [Code.Line.render, Code.Part.render, hindent, String.append_assoc]
  have hlines : (⟨profile.offsets.map fun ((owner, field), value) ↦
      ⟨12, [.offset owner field, .text (": " ++ toString value.toNat ++ ",")]⟩⟩ : Code).text =
        String.join ((profile.offsets.map fun ((owner, field), value) ↦
          (Code.offsetName owner field, value)).map fun (name, value) ↦
            "            " ++ name ++ ": " ++ toString value.toNat ++ ",\n") := by
    rw [Code.text, List.map_map, List.map_map]
    refine congrArg String.join (List.map_congr_left fun entry _ ↦ ?_)
    obtain ⟨⟨owner, field⟩, value⟩ := entry
    exact hline owner field value
  rw [constructor_indented, Code.text_append, Code.text_append]
  exact congrArg₂ (· ++ ·) (congrArg₂ (· ++ ·) hfront hlines) hback

end Artifact

namespace Profile

def offsetNames (profile : Profile) : List String :=
  profile.structures.flatMap fun struct ↦
    struct.members.map fun member ↦ Code.offsetName struct.name member.name

/-- The profile is what the description selects from the schema, and the artifact for it and for the
context that it was built in takes every offset from there. -/
structure Faithful (spec : Spec) (schema : Schema) (profile : Profile) (final : Context) : Prop where
  /-- The structures are those of the schema that the description names, -/
  selected : ∀ name, name ∈ profile.structures.map Structure.schemaName ↔
    name ∈ spec.structs ∧ schema.contains name = true
  /-- each of them once, -/
  once : (profile.structures.map Structure.schemaName).Nodup
  /-- under its canonical name, -/
  canonical : ∀ struct ∈ profile.structures, struct.name = Name.canonical struct.schemaName
  /-- and in the order of these names. -/
  increasing : profile.structures.Pairwise fun first second ↦ first.name < second.name
  /-- The fields of a structure are those that are kept, as the schema describes and orders them. -/
  fields : ∀ struct ∈ profile.structures, struct.Follows spec schema
  /-- The number of a field leads to it, whatever was numbered in between. -/
  numbers : ∀ struct ∈ profile.structures, final.Numbers struct.members
  /-- No two accessors of a structure have the same name, -/
  accessors : ∀ struct ∈ profile.structures,
    (struct.members.map fun member ↦ Name.escaped member.name).Nodup
  /-- and no two offsets of the profile. -/
  offsets : profile.offsetNames.Nodup
  /-- The artifact starts each offset, and nothing else, with what the schema writes for its field. -/
  initial : ∃ values : List (String × UInt64),
    (∃ front back, (Artifact.code final profile).text = front ++ Artifact.constructorText values ++ back) ∧
    (values.map Prod.fst).Perm profile.offsetNames ∧
    ∀ struct ∈ profile.structures, ∀ member ∈ struct.members, ∃ value,
      schema.writtenOffset? struct.schemaName member.name = some value ∧
        (Code.offsetName struct.name member.name, value) ∈ values
  /-- The accessor of a field is in the artifact, and of all offsets it reads that of its field. -/
  reads : ∀ struct ∈ profile.structures, ∀ member ∈ struct.members,
    (member.field.kind.accessorCode final.options struct.name member.name).PartOf
      (Artifact.code final profile) ∧
    Words.offsetsRead (member.field.kind.accessorCode final.options struct.name member.name).text =
      [(Code.offsetName struct.name member.name).toList]

namespace Success

variable {options : Options} {spec : Spec} {schema : Schema} {profile : Profile} {final : Context}
  {structs : List Structure}

theorem perm_structures (hsuccess : Success options spec schema profile final structs) :
    profile.structures.Perm structs := by
  rw [hsuccess.profile]
  exact List.mergeSort_perm _ _

theorem schemaNames_perm (hsuccess : Success options spec schema profile final structs) :
    (profile.structures.map Structure.schemaName).Perm (chosen spec schema.sortedNames) :=
  hsuccess.names ▸ hsuccess.perm_structures.map _

theorem nodup_structures (hsuccess : Success options spec schema profile final structs) :
    (profile.structures.map Structure.name).Nodup := by
  have hnames : profile.structures.map Structure.name =
      (profile.structures.map Structure.schemaName).map Name.canonical := by
    rw [List.map_map]
    refine List.map_congr_left fun struct hstruct ↦ ?_
    exact (hsuccess.built struct ((hsuccess.mem_structures struct).mp hstruct)).name
  rw [hnames]
  exact (hsuccess.schemaNames_perm.map _).symm.nodup hsuccess.selects.distinct

/-- Structures are sorted, and no two have the same name. -/
theorem increasing_structures (hsuccess : Success options spec schema profile final structs) :
    profile.structures.Pairwise fun first second ↦ first.name < second.name := by
  have hsorted : profile.structures.Pairwise fun first second ↦ first.name ≤ second.name := by
    rw [hsuccess.profile]
    exact pairwise_mergeSort_key Structure.name structs
  have hdistinct := List.pairwise_map.mp hsuccess.nodup_structures
  exact (hsorted.and hdistinct).imp fun hboth ↦ lt_of_le_of_ne hboth.1 hboth.2

theorem nodup_members (hsuccess : Success options spec schema profile final structs)
    {struct : Structure} (hstruct : struct ∈ profile.structures) :
    (struct.members.map Member.name).Nodup := by
  have hnames := hsuccess.compatible.nodup_names ((hsuccess.mem_structures struct).mp hstruct)
  rwa [Structure.shapes, List.map_map] at hnames

theorem isIdentifier_member (hsuccess : Success options spec schema profile final structs)
    {struct : Structure} (hstruct : struct ∈ profile.structures) {member : Member}
    (hmember : member ∈ struct.members) : Name.isIdentifier member.name = true :=
  hsuccess.isIdentifier_shape ((hsuccess.mem_structures struct).mp hstruct)
    (List.mem_map_of_mem hmember)

theorem nodup_escaped (hsuccess : Success options spec schema profile final structs)
    {struct : Structure} (hstruct : struct ∈ profile.structures) :
    (struct.members.map fun member ↦ Name.escaped member.name).Nodup := by
  have hinjective : ∀ first ∈ struct.members.map Member.name, ∀ second ∈ struct.members.map Member.name,
      Name.escaped first = Name.escaped second → first = second := by
    intro first hfirst second hsecond hsame
    obtain ⟨member, hmember, rfl⟩ := List.mem_map.mp hfirst
    obtain ⟨member', hmember', rfl⟩ := List.mem_map.mp hsecond
    exact Name.escaped_inj (hsuccess.isIdentifier_member hstruct hmember)
      (hsuccess.isIdentifier_member hstruct hmember') hsame
  have hescaped := List.Nodup.map_on hinjective (hsuccess.nodup_members hstruct)
  rwa [List.map_map] at hescaped

theorem nodup_offsetNames (hsuccess : Success options spec schema profile final structs) :
    profile.offsetNames.Nodup := by
  have hoffsets := hsuccess.compatible.offsets
  rw [offsetOwners, List.map_flatMap] at hoffsets
  rw [offsetNames, hsuccess.profile]
  simpa only [List.map_map, Function.comp_def] using hoffsets

theorem follows_structure (hsuccess : Success options spec schema profile final structs)
    {struct : Structure} (hstruct : struct ∈ profile.structures) : struct.Follows spec schema :=
  (hsuccess.built struct ((hsuccess.mem_structures struct).mp hstruct)).follows

end Success

/-- The offsets are listed by structure, and in each by the names of the fields. -/
theorem offsets_perm (profile : Profile) :
    ((profile.offsets.map fun ((owner, field), value) ↦
      (Code.offsetName owner field, value)).map Prod.fst).Perm profile.offsetNames := by
  rw [List.map_map, offsets, offsetNames, List.map_flatMap]
  refine List.Perm.flatMap_left _ fun struct _ ↦ ?_
  rw [List.map_map]
  exact (List.mergeSort_perm struct.members _).map _

theorem mem_offsets {profile : Profile} {struct : Structure} (hstruct : struct ∈ profile.structures)
    {member : Member} (hmember : member ∈ struct.members) :
    ((struct.name, member.name), member.field.offset) ∈ profile.offsets :=
  List.mem_flatMap.mpr ⟨struct, hstruct, List.mem_map.mpr ⟨member, List.mem_mergeSort.mpr hmember, rfl⟩⟩

/-- A profile that is built is faithful to its schema. -/
theorem build_faithful {options : Options} {spec : Spec} {schema : Schema} {profile : Profile}
    {final : Context} (hbuild : (build spec schema).run.run { options } = (.ok profile, final)) :
    Faithful spec schema profile final := by
  obtain ⟨structs, hsuccess⟩ := build_ok hbuild
  have hstructure {struct : Structure} (hstruct : struct ∈ profile.structures) : struct ∈ structs :=
    (hsuccess.mem_structures struct).mp hstruct
  have hnumbers : ∀ struct ∈ profile.structures, final.Numbers struct.members := by
    obtain ⟨built, hbuilt, -, -, rfl⟩ := exists_structuresBuilt hbuild
    exact fun struct hstruct ↦ hbuilt.numbered.2 struct (List.mem_mergeSort.mp hstruct)
  exact {
    selected := fun name ↦ by
      rw [hsuccess.schemaNames_perm.mem_iff, chosen, List.mem_filter, mem_sortedNames, and_comm,
        Spec.selectsStruct, List.contains_iff_mem]
    once := hsuccess.schemaNames_perm.symm.nodup hsuccess.selects.distinct.of_map
    canonical := fun struct hstruct ↦ (hsuccess.built struct (hstructure hstruct)).name
    increasing := hsuccess.increasing_structures
    fields := fun struct hstruct ↦ hsuccess.follows_structure hstruct
    numbers := hnumbers
    accessors := fun struct hstruct ↦ hsuccess.nodup_escaped hstruct
    offsets := hsuccess.nodup_offsetNames
    initial := by
      refine ⟨_, Artifact.text_constructor profile ▸ Artifact.constructor_partOf final profile,
        profile.offsets_perm, fun struct hstruct member hmember ↦ ?_⟩
      exact ⟨member.field.offset,
        (hsuccess.follows_structure hstruct).writtenOffset? (hsuccess.nodup_members hstruct) hmember,
        List.mem_map.mpr ⟨_, mem_offsets hstruct hmember, rfl⟩⟩
    reads := fun struct hstruct member hmember ↦
      ⟨Artifact.accessor_partOf final hstruct hmember,
        Kind.offsetsRead_accessorCode (hsuccess.isName_structure (hstructure hstruct))
          (hsuccess.isIdentifier_member hstruct hmember)
          (hsuccess.isNamed_of_reaches ⟨struct, hstruct, member, hmember, .refl⟩)
          (hsuccess.countsNamed_member (hstructure hstruct) hmember)⟩ }

/-- The element of an array is numbered before it, and the array has the offset that is written for
it. -/
theorem build_faithful_file : ∃ final,
    (build Artifact.fileSpec Artifact.fileSchema).run.run { options := {} } =
      (.ok ⟨"Profile", sorted [Artifact.fileStructure]⟩, final) ∧
    Faithful Artifact.fileSpec Artifact.fileSchema ⟨"Profile", sorted [Artifact.fileStructure]⟩ final ∧
    Artifact.fileSchema.writtenOffset? "_File" "items" = some 4 ∧
    final.arena[2]? =
      some ⟨4, .array (.sibling "count") (.enumeration ⟨.w64, [(1, "one")]⟩), some 1⟩ := by
  obtain ⟨final, hbuild, -⟩ := Artifact.outcome_fileSchema
  have hfaithful := build_faithful hbuild
  have hnumbers := hfaithful.numbers Artifact.fileStructure (List.mem_mergeSort.mpr List.mem_cons_self)
  exact ⟨final, hbuild, hfaithful, by decide +kernel,
    hnumbers _ (List.mem_cons_of_mem _ List.mem_cons_self)⟩

end Profile

end BinaryLayout
