import BinaryLayout.Proofs.ProfileFidelity

/-!
# Names of Generated Types

A run generates one type for the profile and one for each structure. None of them has the name of
another, of a helper type, of an import or of the standard names that generated code uses. Structures
do not have the name of a primitive type either, since canonical names start with no lower-case letter.
The name of the profile is taken as it is given, and primitive types are not reserved: under any of
their names, a run succeeds as it does under its own.
-/

namespace BinaryLayout

namespace Artifact

def primitiveTypes : List String :=
  ["u8", "u16", "u32", "u64", "i8", "i16", "i32", "i64", "usize", "bool", "str"]

def standardNames : List String :=
  ["Vec", "String", "Option", "Some", "None", "Ok", "Err", "Clone", "Copy", "Debug", "Default",
   "PartialEq", "Eq"]

def importedNames : List String :=
  ["ReaderAt", "Structure"]

def reliedNames : List String :=
  standardNames ++ importedNames ++ Helper.types

theorem reliedNames_subset : reliedNames ⊆ reservedNames := by
  decide

end Artifact

open Artifact (primitiveTypes reliedNames)

theorem Name.canonical_notMem_primitiveTypes (name : String) :
    Name.canonical name ∉ primitiveTypes := by
  have hlower : ∀ type ∈ primitiveTypes, type.toList.head?.any Char.isLower = true := by decide
  intro hmem
  obtain ⟨head, hhead, hislower⟩ := (Option.any_eq_true _ _).mp (hlower _ hmem)
  rw [canonical_head_not_lower hhead] at hislower
  cases hislower

theorem Spec.Reordered.refl (spec : Spec) : Reordered spec spec := by
  have hrel (names : Option (List String)) : Option.Rel SameNames names names := by
    cases names with
    | none => exact .none
    | some names => exact .some fun _ ↦ Iff.rfl
  exact ⟨fun _ ↦ Iff.rfl, fun _ ↦ hrel _, fun _ ↦ hrel _⟩

theorem Schema.Reordered.refl (schema : Schema) : Reordered schema schema :=
  ⟨schema.entries, .refl _, List.forall₂_same.mpr fun entry _ ↦ ⟨rfl, .refl entry.2⟩⟩

namespace Profile

variable {options : Options} {spec : Spec} {schema : Schema} {profile : Profile} {final : Context}
  {structs : List Structure}

namespace Success

theorem name_notMem_reliedNames (hsuccess : Success options spec schema profile final structs)
    {struct : Structure} (hstruct : struct ∈ profile.structures) : struct.name ∉ reliedNames := by
  have husable := hsuccess.isStructName_name ((hsuccess.mem_structures struct).mp hstruct)
  intro hrelied
  simp [isStructName, Artifact.reliedNames_subset hrelied] at husable

theorem name_notMem_primitiveTypes (hsuccess : Success options spec schema profile final structs)
    {struct : Structure} (hstruct : struct ∈ profile.structures) : struct.name ∉ primitiveTypes := by
  rw [(hsuccess.built struct ((hsuccess.mem_structures struct).mp hstruct)).name]
  exact Name.canonical_notMem_primitiveTypes struct.schemaName

theorem profile_notMem_reliedNames (hsuccess : Success options spec schema profile final structs) :
    profile.name ∉ reliedNames := by
  have husable := hsuccess.selects.profile
  rw [hsuccess.profile]
  intro hrelied
  have hreserved : options.profile ∈ reservedNames := Artifact.reliedNames_subset hrelied
  simp [isUsableName, hreserved] at husable

theorem nodup_generated (hsuccess : Success options spec schema profile final structs) :
    (profile.name :: profile.structures.map Structure.name).Nodup := by
  refine List.nodup_cons.mpr ⟨fun hmem ↦ ?_, hsuccess.nodup_structures⟩
  obtain ⟨struct, hstruct, hname⟩ := List.mem_map.mp hmem
  have husable := hsuccess.isStructName_name ((hsuccess.mem_structures struct).mp hstruct)
  rw [hsuccess.profile] at hname
  simp [isStructName, hname] at husable

/-- A build also succeeds under another name for the profile that is usable and free. -/
theorem exists_build_withProfile (hsuccess : Success options spec schema profile final structs)
    {name : String} (husable : isUsableName name = true)
    (hfree : ∀ struct ∈ profile.structures, struct.name ≠ name) :
    ∃ profile' final',
      (build spec schema).outcome { options := options.withProfile name } = (.ok profile', final') ∧
        profile'.name = name := by
  have hselects : Selects (options.withProfile name) spec schema := by
    refine ⟨husable, fun schemaName hchosen ↦ ?_, hsuccess.selects.distinct, hsuccess.selects.described⟩
    rw [← hsuccess.names] at hchosen
    obtain ⟨struct, hstruct, rfl⟩ := List.mem_map.mp hchosen
    have hname := hfree struct ((hsuccess.mem_structures struct).mpr hstruct)
    have hbefore := hsuccess.isStructName_name hstruct
    rw [← (hsuccess.built struct hstruct).name]
    simp only [isStructName, Bool.and_eq_true, bne_iff_ne] at hbefore ⊢
    exact ⟨hbefore.1, hname⟩
  -- The same entries are built again, so the structures fit together as they did.
  have hcompatible (structs' : List Structure)
      (hnames : structs'.map Structure.schemaName = chosen spec schema.sortedNames)
      (hbuilt : ∀ struct ∈ structs', Built spec schema struct) : Compatible structs' :=
    hsuccess.compatible.of_layouts (hsuccess.layouts_eq (.refl spec) (.refl schema) hnames hbuilt)
  obtain ⟨profile', final', hbuild⟩ := exists_build hselects hcompatible
  obtain ⟨structs', hsuccess'⟩ := build_ok hbuild
  exact ⟨profile', final', hbuild, by rw [hsuccess'.profile]; rfl⟩

end Success

theorem isUsableName_of_primitive {type : String} (htype : type ∈ primitiveTypes) :
    isUsableName type = true := by
  have hall : ∀ primitive ∈ primitiveTypes, isUsableName primitive = true := by decide +kernel
  exact hall type htype

/-- The types of an artifact have names of their own, apart from those that its code relies on, but for
the profile, which can have the name of any primitive type. -/
theorem generated_names_apart {options : Options} {spec : Spec} {schema : Schema} {profile : Profile}
    {final : Context} (hbuild : (build spec schema).run.run { options } = (.ok profile, final)) :
    (∀ struct ∈ profile.structures, struct.name ∉ reliedNames ∧ struct.name ∉ primitiveTypes) ∧
      profile.name ∉ reliedNames ∧
      (profile.name :: profile.structures.map Structure.name).Nodup ∧
      ∀ type ∈ primitiveTypes, ∃ profile' final',
        (build spec schema).run.run { options := options.withProfile type } = (.ok profile', final') ∧
          profile'.name = type := by
  obtain ⟨structs, hsuccess⟩ := build_ok hbuild
  refine ⟨fun struct hstruct ↦ ?_, hsuccess.profile_notMem_reliedNames, hsuccess.nodup_generated,
    fun type htype ↦ ?_⟩
  · exact ⟨hsuccess.name_notMem_reliedNames hstruct, hsuccess.name_notMem_primitiveTypes hstruct⟩
  · refine hsuccess.exists_build_withProfile (isUsableName_of_primitive htype)
      fun struct hstruct hname ↦ ?_
    exact hsuccess.name_notMem_primitiveTypes hstruct (hname ▸ htype)

theorem generated_names_apart_file : ∃ profile final,
    (build Artifact.fileSpec Artifact.fileSchema).run.run { options := {} } = (.ok profile, final) ∧
      profile.structures.map Structure.name = ["File"] ∧ "File" ∉ reliedNames ∧
      ∃ profile' final', (build Artifact.fileSpec Artifact.fileSchema).run.run
          { options := Options.withProfile {} "u64" } = (.ok profile', final') ∧
        profile'.name = "u64" := by
  obtain ⟨final, hbuild, -⟩ := Artifact.outcome_fileSchema
  obtain ⟨hstructs, -, -, hrenamed⟩ := generated_names_apart hbuild
  have hsorted : sorted [Artifact.fileStructure] = [Artifact.fileStructure] :=
    List.mergeSort_singleton _
  rw [hsorted] at hbuild hstructs
  exact ⟨_, final, hbuild, rfl, (hstructs _ List.mem_cons_self).1, hrenamed "u64" (by decide)⟩

def byteSpec : Spec :=
  { profile := "u8", structs := ["S"] }

def byteSchema : Schema :=
  ⟨[("S", .array [.number (.natural 1),
    .object [("f", .array [.number (.natural 0), .array [.string "unsigned char"]])]])]⟩

def byteStructure : Structure :=
  ⟨"S", "S", 1, [⟨⟨0, ⟨0, .integer ⟨.w8, false⟩, none⟩⟩, "f"⟩]⟩

/-- The type of the field is written as the name of the profile. -/
theorem profile_named_primitive : ∃ profile final,
    (build byteSpec byteSchema).run.run { options := .ofSpec byteSpec } = (.ok profile, final) ∧
      profile.name ∈ primitiveTypes ∧
      ∃ struct ∈ profile.structures, ∃ member ∈ struct.members,
        member.field.kind.typeParts = [.text profile.name] := by
  have hnames : byteSchema.sortedNames = ["S"] := List.mergeSort_of_pairwise (by decide +kernel)
  have hstructs : ((buildStructures byteSpec byteSchema "u8" [] ["S"]).outcome
      (start (.ofSpec byteSpec) byteSpec byteSchema)).1.toOption = some [byteStructure] := by
    decide +kernel
  have husable : isUsableName (Options.ofSpec byteSpec).profile = true :=
    isUsableName_of_primitive (by decide)
  have hcompatible : Compatible [byteStructure] :=
    compatible_singleton (by decide +kernel) (by decide +kernel)
  exact ⟨_, _, outcome_build_of_names husable hnames hstructs hcompatible,
    by decide, byteStructure, List.mem_mergeSort.mpr List.mem_cons_self, _, List.mem_cons_self, rfl⟩

end Profile

end BinaryLayout
