import BinaryLayout.Artifact
import BinaryLayout.Proofs.ProfileBuild

/-!
# Artifacts Do Not Depend on Order

The order of structures in a schema, of the fields in a structure, and of the names in a run
description leaves the artifact as it is, and so does writing a name twice. The order does change the
numbers of fields and which kind is first to record a shared helper; neither shows in the text. Which
error is reported may depend on the order, whether there is one does not.
-/

namespace BinaryLayout

theorem pairwise_mergeSort_key {α : Type} (key : α → String) (entries : List α) :
    (entries.mergeSort fun entry entry' ↦ key entry ≤ key entry').Pairwise
      fun entry entry' ↦ key entry ≤ key entry' := by
  refine (List.pairwise_mergeSort ?_ ?_ entries).imp fun hle ↦ by simpa using hle
  · intro first second third
    simpa using le_trans
  · intro first second
    simpa using le_total (key first) (key second)

/-- Sorting by a key that tells the members apart forgets the order. -/
theorem mergeSort_eq_of_perm {α : Type} (key : α → String) {first second : List α}
    (hperm : first.Perm second)
    (hkey : ∀ entry ∈ first, ∀ entry' ∈ first, key entry = key entry' → entry = entry') :
    first.mergeSort (fun entry entry' ↦ key entry ≤ key entry') =
      second.mergeSort (fun entry entry' ↦ key entry ≤ key entry') := by
  have hboth : (first.mergeSort fun entry entry' ↦ key entry ≤ key entry').Perm
      (second.mergeSort fun entry entry' ↦ key entry ≤ key entry') :=
    (List.mergeSort_perm first _).trans (hperm.trans (List.mergeSort_perm second _).symm)
  refine hboth.eq_of_pairwise ?_ (pairwise_mergeSort_key key first) (pairwise_mergeSort_key key second)
  intro entry entry' hmem hmem' hle hge
  have hentry : entry ∈ first := (List.mergeSort_perm first _).mem_iff.mp hmem
  have hentry' : entry' ∈ first :=
    hperm.mem_iff.mpr ((List.mergeSort_perm second _).mem_iff.mp hmem')
  exact hkey entry hentry entry' hentry' (le_antisymm hle hge)

theorem exists_mem_of_forall₂ {α β : Type} {related : α → β → Prop} {first : List α} {second : List β}
    (hrelated : List.Forall₂ related first second) {entry : α} (hmem : entry ∈ first) :
    ∃ entry' ∈ second, related entry entry' := by
  induction hrelated with
  | nil => simp at hmem
  | cons hsame _ ih =>
    rcases List.mem_cons.mp hmem with rfl | hrest
    · exact ⟨_, List.mem_cons_self, hsame⟩
    · obtain ⟨entry', hmem', hfields⟩ := ih hrest
      exact ⟨entry', List.mem_cons_of_mem _ hmem', hfields⟩

/-! ## Inputs in another order -/

def SameNames (first second : List String) : Prop :=
  ∀ name, name ∈ first ↔ name ∈ second

structure Spec.Reordered (first second : Spec) : Prop where
  structs : SameNames first.structs second.structs
  allow : ∀ struct, Option.Rel SameNames (first.allow.lookup struct) (second.allow.lookup struct)
  deny : ∀ struct, Option.Rel SameNames (first.deny.lookup struct) (second.deny.lookup struct)

/-- Entries of a structure with the same fields. Other entries are not reordered. -/
inductive Schema.FieldsReordered : Json → Json → Prop
  | refl (entry : Json) : FieldsReordered entry entry
  | fields (size : Json) {first second : List (String × Json)} (rest : List Json)
      (hperm : first.Perm second) :
      FieldsReordered (.array (size :: .object first :: rest)) (.array (size :: .object second :: rest))

def Schema.SameStructure (first second : String × Json) : Prop :=
  first.1 = second.1 ∧ FieldsReordered first.2 second.2

def Schema.Reordered (first second : Schema) : Prop :=
  ∃ middle, first.entries.Perm middle ∧ List.Forall₂ SameStructure middle second.entries

namespace SameNames

variable {first second : List String}

theorem symm (hsame : SameNames first second) : SameNames second first :=
  fun name ↦ (hsame name).symm

theorem contains_eq (hsame : SameNames first second) (name : String) :
    first.contains name = second.contains name := by
  rw [Bool.eq_iff_iff, List.contains_iff_mem, List.contains_iff_mem, hsame name]

theorem rel_symm {first second : Option (List String)} (hsame : Option.Rel SameNames first second) :
    Option.Rel SameNames second first := by
  cases hsame with
  | some hnames => exact .some hnames.symm
  | none => exact .none

end SameNames

namespace Spec.Reordered

variable {first second : Spec}

theorem symm (hspec : Reordered first second) : Reordered second first where
  structs := hspec.structs.symm
  allow struct := SameNames.rel_symm (hspec.allow struct)
  deny struct := SameNames.rel_symm (hspec.deny struct)

theorem selectsStruct_eq (hspec : Reordered first second) :
    first.selectsStruct = second.selectsStruct := by
  funext name
  exact hspec.structs.contains_eq name

theorem selectsField_eq (hspec : Reordered first second) (struct field : String) :
    first.selectsField struct field = second.selectsField struct field := by
  have hallow := hspec.allow struct
  have hdeny := hspec.deny struct
  unfold selectsField
  generalize first.allow.lookup struct = allow at *
  generalize second.allow.lookup struct = allow' at *
  generalize first.deny.lookup struct = deny at *
  generalize second.deny.lookup struct = deny' at *
  have hdenied : (deny.getD []).contains field = (deny'.getD []).contains field := by
    cases hdeny with
    | some hnames => exact hnames.contains_eq field
    | none => rfl
  rw [hdenied]
  cases hallow with
  | some hnames => simp only [hnames.contains_eq field]
  | none => rfl

end Spec.Reordered

namespace Schema

theorem FieldsReordered.symm {first second : Json} (hentry : FieldsReordered first second) :
    FieldsReordered second first := by
  cases hentry with
  | refl => exact .refl _
  | fields size rest hperm => exact .fields size rest hperm.symm

theorem Reordered.symm {first second : Schema} (hschema : Reordered first second) :
    Reordered second first := by
  obtain ⟨middle, hperm, hentries⟩ := hschema
  have hback : List.Forall₂ SameStructure second.entries middle := by
    refine List.Forall₂.flip (hentries.imp ?_)
    exact fun entry entry' hsame ↦ ⟨hsame.1.symm, hsame.2.symm⟩
  have hcomp : Relation.Comp (List.Forall₂ SameStructure) List.Perm second.entries first.entries :=
    ⟨middle, hback, hperm.symm⟩
  rwa [List.forall₂_comp_perm_eq_perm_comp_forall₂] at hcomp

/-- An entry is found in the other schema, with its fields in another order. -/
theorem Reordered.exists_mem {first second : Schema} (hschema : Reordered first second)
    {name : String} {entry : Json} (hmem : (name, entry) ∈ first.entries) :
    ∃ entry', (name, entry') ∈ second.entries ∧ FieldsReordered entry entry' := by
  obtain ⟨middle, hperm, hentries⟩ := hschema
  obtain ⟨⟨name', entry'⟩, hmem', hname, hfields⟩ :=
    exists_mem_of_forall₂ hentries (hperm.mem_iff.mp hmem)
  obtain rfl : name = name' := hname
  exact ⟨entry', hmem', hfields⟩

theorem map_fst_of_forall₂ {first second : List (String × Json)}
    (hentries : List.Forall₂ SameStructure first second) :
    first.map Prod.fst = second.map Prod.fst := by
  induction hentries with
  | nil => rfl
  | cons hsame _ ih => rw [List.map_cons, List.map_cons, hsame.1, ih]

theorem Reordered.sortedNames_eq {first second : Schema} (hschema : Reordered first second) :
    first.sortedNames = second.sortedNames := by
  obtain ⟨middle, hperm, hentries⟩ := hschema
  have hnames : (first.entries.map Prod.fst).Perm (second.entries.map Prod.fst) := by
    rw [← map_fst_of_forall₂ hentries]
    exact hperm.map Prod.fst
  exact mergeSort_eq_of_perm id hnames fun _ _ _ _ hsame ↦ hsame

/-- A selected name that a schema lists once leads to its entry. -/
theorem entry?_eq_some_of_mem {schema : Schema} {spec : Spec}
    (hnodup : (Profile.chosen spec schema.sortedNames).Nodup) {name : String} {entry : Json}
    (hselected : spec.selectsStruct name = true) (hmem : (name, entry) ∈ schema.entries) :
    schema.entry? name = some entry := by
  have hfiltered : ((schema.entries.filter fun pair ↦ spec.selectsStruct pair.1).map Prod.fst).Nodup := by
    have hperm : (Profile.chosen spec schema.sortedNames).Perm
        ((schema.entries.map Prod.fst).filter spec.selectsStruct) :=
      (List.mergeSort_perm _ _).filter _
    rw [← Function.comp_def, ← List.filter_map]
    exact hperm.nodup hnodup
  obtain ⟨found, hfound⟩ : ∃ found, schema.entry? name = some found := by
    apply Option.isSome_iff_exists.mp
    unfold entry?
    simpa using ⟨entry, hmem⟩
  have hfound' : (name, found) ∈ schema.entries := by
    obtain ⟨front, back, hentries, -⟩ := List.lookup_eq_some_iff.mp hfound
    simp [hentries]
  have hsame := List.inj_on_of_nodup_map hfiltered
    (List.mem_filter.mpr ⟨hfound', hselected⟩) (List.mem_filter.mpr ⟨hmem, hselected⟩) rfl
  rw [hfound, (Prod.mk.inj hsame).2]

/-- A selected name leads to entries of the same structure. -/
theorem Reordered.exists_entry {first second : Schema} (hschema : Reordered first second)
    {spec : Spec} (hnodup : (Profile.chosen spec first.sortedNames).Nodup) {name : String}
    {entry : Json} (hselected : spec.selectsStruct name = true)
    (hentry : first.entry? name = some entry) :
    ∃ entry', second.entry? name = some entry' ∧ FieldsReordered entry entry' := by
  have hmem : (name, entry) ∈ first.entries := by
    obtain ⟨front, back, hentries, -⟩ := List.lookup_eq_some_iff.mp hentry
    simp [hentries]
  obtain ⟨entry', hmem', hfields⟩ := hschema.exists_mem hmem
  rw [hschema.sortedNames_eq] at hnodup
  exact ⟨entry', entry?_eq_some_of_mem hnodup hselected hmem', hfields⟩

end Schema

namespace Structure

theorem entryParts_reordered {first second : Json} (hentry : Schema.FieldsReordered first second)
    {schemaName : String} {size : UInt64} {fields : List (String × Json)}
    (hparts : entryParts schemaName first = .ok (size, fields)) :
    ∃ fields', entryParts schemaName second = .ok (size, fields') ∧ fields.Perm fields' := by
  cases hentry with
  | refl => exact ⟨fields, hparts, .refl _⟩
  | fields size' rest hperm =>
    rename_i members members'
    simp only [entryParts, Json.object?] at hparts ⊢
    cases hsize : size'.natural? with
    | none => simp [hsize] at hparts
    | some bytes =>
      obtain ⟨rfl, rfl⟩ : bytes = size ∧ members = fields := by simpa [hsize] using hparts
      exact ⟨members', rfl, hperm⟩

theorem kept_eq {spec spec' : Spec} (hspec : spec.Reordered spec') (schemaName : String)
    (fields : List (String × Json)) : kept spec schemaName fields = kept spec' schemaName fields := by
  unfold kept
  simp only [hspec.selectsField_eq]

theorem find?_eq_of_perm {first second : List FieldShape} (hperm : first.Perm second)
    (hnames : (first.map FieldShape.name).Nodup) (name : String) :
    first.find? (·.name == name) = second.find? (·.name == name) := by
  have hunique : ∀ shape ∈ first, ∀ shape' ∈ first, shape.name = shape'.name → shape = shape' :=
    fun shape hshape shape' hshape' ↦ List.inj_on_of_nodup_map hnames hshape hshape'
  cases hfirst : first.find? (·.name == name) with
  | none =>
    refine (List.find?_eq_none.mpr fun shape hshape ↦ ?_).symm
    exact List.find?_eq_none.mp hfirst shape (hperm.mem_iff.mpr hshape)
  | some shape =>
    cases hsecond : second.find? (·.name == name) with
    | none =>
      have hmem := hperm.mem_iff.mp (List.mem_of_find?_eq_some hfirst)
      exact absurd (List.find?_some hfirst) (List.find?_eq_none.mp hsecond shape hmem)
    | some shape' =>
      have hname : shape.name = name := by simpa using List.find?_some hfirst
      have hname' : shape'.name = name := by simpa using List.find?_some hsecond
      have hmem' := hperm.mem_iff.mpr (List.mem_of_find?_eq_some hsecond)
      rw [hunique shape (List.mem_of_find?_eq_some hfirst) shape' hmem' (hname.trans hname'.symm)]

theorem CountsResolve.of_perm {first second : List FieldShape} (hcounts : CountsResolve first)
    (hperm : first.Perm second)
    (hnames : (first.map FieldShape.name).Nodup) : CountsResolve second := by
  intro shape hshape
  obtain ⟨hnested, hcount⟩ := hcounts shape (hperm.mem_iff.mpr hshape)
  refine ⟨hnested, fun count element hkind ↦ ?_⟩
  rw [← find?_eq_of_perm hperm hnames]
  exact hcount count element hkind

/-- The shapes of a structure are the same up to order. -/
theorem Describes.perm {spec spec' : Spec} (hspec : spec.Reordered spec') {schemaName : String}
    {first second : Json} (hentry : Schema.FieldsReordered first second) {size size' : UInt64}
    {shapes shapes' : List FieldShape} (hfirst : Describes spec schemaName first size shapes)
    (hsecond : Describes spec' schemaName second size' shapes') :
    size = size' ∧ shapes.Perm shapes' := by
  obtain ⟨fields, hparts, -, rfl⟩ := hfirst.parts
  obtain ⟨fields', hparts', -, rfl⟩ := hsecond.parts
  obtain ⟨fields'', hparts'', hperm⟩ := entryParts_reordered hentry hparts
  obtain ⟨rfl, rfl⟩ : size = size' ∧ fields'' = fields' := by
    simpa using hparts''.symm.trans hparts'
  rw [← kept_eq hspec]
  exact ⟨rfl, (hperm.filter _).filterMap _⟩

theorem Describes.reordered {spec spec' : Spec} (hspec : spec.Reordered spec') {schemaName : String}
    {first second : Json} (hentry : Schema.FieldsReordered first second) {size : UInt64}
    {shapes : List FieldShape} (hfirst : Describes spec schemaName first size shapes)
    (hnames : (shapes.map FieldShape.name).Nodup) :
    ∃ shapes', Describes spec' schemaName second size shapes' := by
  obtain ⟨fields, hparts, hall, rfl⟩ := hfirst.parts
  obtain ⟨fields', hparts', hperm⟩ := entryParts_reordered hentry hparts
  have hkept : (kept spec schemaName fields).Perm (kept spec' schemaName fields') := by
    rw [← kept_eq hspec]
    exact hperm.filter _
  refine ⟨_, ⟨fields', hparts', fun field hfield ↦ ?_, rfl⟩,
    hfirst.counts.of_perm (hkept.filterMap _) hnames⟩
  exact hall field (hkept.mem_iff.mpr hfield)

end Structure

/-! ## Layouts -/

/-- What the code of a structure depends on: its fields in the order of their names, without their
numbers. -/
structure Layout where
  name : String
  schemaName : String
  size : UInt64
  fields : List FieldShape
deriving DecidableEq

namespace Structure

def layout (struct : Structure) : Layout :=
  ⟨struct.name, struct.schemaName, struct.size, struct.sortedMembers.map Member.shape⟩

theorem layout_fields (struct : Structure) :
    struct.layout.fields = struct.shapes.mergeSort fun first second ↦ first.name ≤ second.name :=
  List.map_mergeSort fun _ _ _ _ ↦ rfl

theorem layout_fields_perm (struct : Structure) : struct.layout.fields.Perm struct.shapes := by
  rw [layout_fields]
  exact List.mergeSort_perm _ _

/-- Structures with the same shapes have one layout. -/
theorem layout_eq {first second : Structure} (hname : first.name = second.name)
    (hschemaName : first.schemaName = second.schemaName) (hsize : first.size = second.size)
    (hshapes : first.shapes.Perm second.shapes) (hnames : (first.shapes.map FieldShape.name).Nodup) :
    first.layout = second.layout := by
  have hfields : first.layout.fields = second.layout.fields := by
    rw [layout_fields, layout_fields]
    refine mergeSort_eq_of_perm FieldShape.name hshapes ?_
    exact fun shape hshape shape' hshape' ↦ List.inj_on_of_nodup_map hnames hshape hshape'
  simp only [layout, Layout.mk.injEq]
  exact ⟨hname, hschemaName, hsize, hfields⟩

end Structure

/-- Functions of structures that depend on the layout agree on lists with the same layouts. -/
theorem map_eq_of_layouts {α : Type} {value value' : Structure → α}
    (hvalue : ∀ struct struct', struct.layout = struct'.layout → value struct = value' struct') :
    ∀ {first second : List Structure}, first.map Structure.layout = second.map Structure.layout →
      first.map value = second.map value'
  | [], [], _ => rfl
  | struct :: first, struct' :: second, hlayouts => by
    obtain ⟨hlayout, hrest⟩ := List.cons.inj hlayouts
    rw [List.map_cons, List.map_cons, hvalue struct struct' hlayout, map_eq_of_layouts hvalue hrest]

theorem names_of_layouts {first second : List Structure}
    (hlayouts : first.map Structure.layout = second.map Structure.layout) :
    first.map Structure.name = second.map Structure.name :=
  map_eq_of_layouts (fun _ _ hlayout ↦ congrArg Layout.name hlayout) hlayouts

namespace Profile

theorem layouts_sorted {first second : List Structure}
    (hlayouts : first.map Structure.layout = second.map Structure.layout) :
    (sorted first).map Structure.layout = (sorted second).map Structure.layout := by
  have hsorted (structs : List Structure) : (sorted structs).map Structure.layout =
      (structs.map Structure.layout).mergeSort fun layout layout' ↦ layout.name ≤ layout'.name :=
    List.map_mergeSort fun _ _ _ _ ↦ rfl
  rw [hsorted, hsorted, hlayouts]

/-- The names of offsets by layout. -/
theorem offsetOwners_perm (structs : List Structure) :
    ((offsetOwners (sorted structs)).map Prod.fst).Perm
      ((structs.map Structure.layout).flatMap fun layout ↦
        layout.fields.map fun shape ↦ Code.offsetName layout.name shape.name) := by
  have hsorted : (sorted structs).Perm structs := List.mergeSort_perm _ _
  rw [offsetOwners, List.map_flatMap, List.flatMap_map]
  refine (hsorted.flatMap_right _).trans (List.Perm.flatMap_left _ fun struct _ ↦ ?_)
  have hfields := (struct.layout_fields_perm.map fun shape ↦
    Code.offsetName struct.name shape.name).symm
  simpa [Structure.shapes, Structure.layout, Function.comp_def, Member.shape] using hfields

theorem nodup_eraseDups (names : List String) : names.eraseDups.Nodup := by
  induction hlength : names.length using Nat.strong_induction_on generalizing names with
  | _ length ih =>
    cases names with
    | nil => simp
    | cons name rest =>
      rw [List.eraseDups_cons, List.nodup_cons]
      have hshorter : (rest.filter fun other ↦ !other == name).length < length := by
        have hle := List.length_filter_le (fun other ↦ !other == name) rest
        simp only [List.length_cons] at hlength
        omega
      exact ⟨by simp, ih _ hshorter _ rfl⟩

theorem sortedTargets_eq {first second : List String} (hsame : SameNames first second) :
    first.eraseDups.mergeSort (fun name name' ↦ name ≤ name') =
      second.eraseDups.mergeSort (fun name name' ↦ name ≤ name') := by
  have hperm : first.eraseDups.Perm second.eraseDups := by
    refine (List.perm_ext_iff_of_nodup (nodup_eraseDups first) (nodup_eraseDups second)).mpr ?_
    intro name
    rw [List.mem_eraseDups, List.mem_eraseDups]
    exact hsame name
  exact mergeSort_eq_of_perm id hperm fun _ _ _ _ heq ↦ heq

def containedShape? (shape : FieldShape) : Option String :=
  match shape.kind with
  | .reference target => some target
  | _ => none

theorem edges_eq {first second : List Structure}
    (hlayouts : first.map Structure.layout = second.map Structure.layout) :
    Cycle.edges first = Cycle.edges second := by
  have htargets (struct : Structure) : SameNames (struct.members.filterMap Cycle.contained?)
      (struct.layout.fields.filterMap containedShape?) := by
    intro name
    have hshapes : struct.members.filterMap Cycle.contained? =
        struct.shapes.filterMap containedShape? := by
      rw [Structure.shapes, List.filterMap_map]
      rfl
    rw [hshapes]
    exact (struct.layout_fields_perm.filterMap _).mem_iff.symm
  refine map_eq_of_layouts (fun struct struct' hlayout ↦ ?_) hlayouts
  have hname : struct.name = struct'.name := congrArg Layout.name hlayout
  have hsame : SameNames (struct.members.filterMap Cycle.contained?)
      (struct'.members.filterMap Cycle.contained?) := by
    intro name
    rw [htargets struct name, hlayout, htargets struct' name]
  exact Prod.ext hname (sortedTargets_eq hsame)

/-- Structures with the same layouts can stand in a profile together or cannot. -/
theorem Compatible.of_layouts {first second : List Structure} (hcompatible : Compatible first)
    (hlayouts : first.map Structure.layout = second.map Structure.layout) : Compatible second where
  offsets := by
    have hnodup := (offsetOwners_perm first).nodup hcompatible.offsets
    rw [hlayouts] at hnodup
    exact (offsetOwners_perm second).symm.nodup hnodup
  acyclic := by
    have hedges := edges_eq (layouts_sorted hlayouts)
    have hstarts : Cycle.starts (sorted first) = Cycle.starts (sorted second) := by
      unfold Cycle.starts
      rw [names_of_layouts (layouts_sorted hlayouts)]
    have hacyclic := hcompatible.acyclic
    unfold Cycle.find? at hacyclic ⊢
    rwa [← hedges, ← hstarts]

/-- Fields of one structure have different names, since their offsets have. -/
theorem Compatible.nodup_names {structs : List Structure} (hcompatible : Compatible structs)
    {struct : Structure} (hstruct : struct ∈ structs) : (struct.shapes.map FieldShape.name).Nodup := by
  have hnodup := (offsetOwners_perm structs).nodup hcompatible.offsets
  have hown := (List.nodup_flatMap.mp hnodup).1 struct.layout (List.mem_map_of_mem hstruct)
  have hnames : (struct.layout.fields.map FieldShape.name).Nodup := by
    refine List.Nodup.of_map (Code.offsetName struct.layout.name) ?_
    rwa [List.map_map]
  exact (struct.layout_fields_perm.map FieldShape.name).nodup hnames

end Profile

namespace Artifact

theorem sortedMembers_map {α : Type} (value : FieldShape → α) (struct : Structure) :
    struct.sortedMembers.map (fun member ↦ value member.shape) = struct.layout.fields.map value := by
  rw [Structure.layout, List.map_map]
  rfl

theorem handle_eq {struct struct' : Structure} (hlayout : struct.layout = struct'.layout)
    (profile : String) : handle profile struct = handle profile struct' := by
  have hname : struct.name = struct'.name := congrArg Layout.name hlayout
  have hsize : struct.size = struct'.size := congrArg Layout.size hlayout
  simp only [handle, hname, hsize]

theorem accessors_eq {struct struct' : Structure} (hlayout : struct.layout = struct'.layout)
    (options : Options) : accessors options struct = accessors options struct' := by
  have hname : struct.name = struct'.name := congrArg Layout.name hlayout
  have hempty (struct : Structure) :
      struct.sortedMembers.isEmpty = struct.layout.fields.isEmpty := by
    simp [Structure.layout]
  have hmembers (owner : String) (struct : Structure) : (struct.sortedMembers.map fun member ↦
      member.field.kind.accessorCode options owner member.name) =
      struct.layout.fields.map fun shape ↦ shape.kind.accessorCode options owner shape.name :=
    sortedMembers_map (fun shape ↦ shape.kind.accessorCode options owner shape.name) struct
  simp only [accessors, hempty, hmembers, hname, hlayout]

theorem structure?_isSome (profile : Profile) (target : String) :
    (profile.structure? target).isSome = true ↔ target ∈ profile.structures.map Structure.name := by
  simp [Profile.structure?]

theorem displayStyle_eq {profile profile' : Profile}
    (hlayouts : profile.structures.map Structure.layout = profile'.structures.map Structure.layout) :
    displayStyle profile = displayStyle profile' := by
  have hfound (target : String) : (profile.structure? target).isSome =
      (profile'.structure? target).isSome := by
    rw [Bool.eq_iff_iff, structure?_isSome, structure?_isSome, names_of_layouts hlayouts]
  funext kind
  unfold displayStyle
  split
  · rw [hfound]
  · rfl

theorem formatter_eq {profile profile' : Profile} {struct struct' : Structure}
    (hlayouts : profile.structures.map Structure.layout = profile'.structures.map Structure.layout)
    (hlayout : struct.layout = struct'.layout) :
    formatter profile struct = formatter profile' struct' := by
  have hname : struct.name = struct'.name := congrArg Layout.name hlayout
  -- The statement for a field reads its name and kind, so any member with the shape will do.
  have hmembers (profile : Profile) (struct : Structure) :
      struct.sortedMembers.map (displayField profile) =
        struct.layout.fields.map fun shape ↦
          displayField profile ⟨⟨0, ⟨shape.offset, shape.kind, none⟩⟩, shape.name⟩ :=
    sortedMembers_map (fun shape ↦
      displayField profile ⟨⟨0, ⟨shape.offset, shape.kind, none⟩⟩, shape.name⟩) struct
  have hfields : displayField profile = displayField profile' := by
    funext member
    simp only [displayField, displayStyle_eq hlayouts]
  simp only [formatter, hname, hmembers, hlayout, hfields]

theorem offsets_eq {profile profile' : Profile}
    (hlayouts : profile.structures.map Structure.layout = profile'.structures.map Structure.layout) :
    profile.offsets = profile'.offsets := by
  unfold Profile.offsets
  rw [List.flatMap_def, List.flatMap_def]
  refine congrArg List.flatten (map_eq_of_layouts (fun struct struct' hlayout ↦ ?_) hlayouts)
  have hname : struct.name = struct'.name := congrArg Layout.name hlayout
  have hmembers (struct : Structure) : (struct.sortedMembers.map fun member ↦
      ((struct.name, member.name), member.field.offset)) =
      struct.layout.fields.map fun shape ↦ ((struct.name, shape.name), shape.offset) :=
    sortedMembers_map (fun shape ↦ ((struct.name, shape.name), shape.offset)) struct
  rw [hmembers, hmembers, hname, hlayout]

theorem profileCode_eq {profile profile' : Profile} (hname : profile.name = profile'.name)
    (hlayouts : profile.structures.map Structure.layout = profile'.structures.map Structure.layout) :
    profileCode profile = profileCode profile' := by
  have hfactories : (profile.structures.map fun struct ↦ Code.blank ++ factory struct) =
      profile'.structures.map fun struct ↦ Code.blank ++ factory struct := by
    refine map_eq_of_layouts (fun struct struct' hlayout ↦ ?_) hlayouts
    have hstruct : struct.name = struct'.name := congrArg Layout.name hlayout
    simp only [factory, hstruct]
  simp only [profileCode, offsetTable, constructor, hname, offsets_eq hlayouts, hfactories]

/-- The code depends on the options, the helpers and the layouts. -/
theorem code_eq {context context' : Context} {profile profile' : Profile}
    (hoptions : context.options = context'.options) (hhelpers : context.helpers = context'.helpers)
    (hname : profile.name = profile'.name)
    (hlayouts : profile.structures.map Structure.layout = profile'.structures.map Structure.layout) :
    code context profile = code context' profile' := by
  have hstructures : profile.structures.map (structureCode context'.options profile) =
      profile'.structures.map (structureCode context'.options profile') := by
    refine map_eq_of_layouts (fun struct struct' hlayout ↦ ?_) hlayouts
    simp only [structureCode, handle_eq hlayout, accessors_eq hlayout, formatter_eq hlayouts hlayout]
  simp only [code, hoptions, hhelpers, hstructures, profileCode_eq hname hlayouts]

end Artifact

/-! ## Whole runs -/

namespace Profile

variable {options : Options} {spec spec' : Spec} {schema schema' : Schema} {profile : Profile}
  {after : Context} {structs structs' : List Structure}

theorem chosen_eq (hspec : spec.Reordered spec') (hschema : schema.Reordered schema') :
    chosen spec schema.sortedNames = chosen spec' schema'.sortedNames := by
  rw [chosen, chosen, hspec.selectsStruct_eq, hschema.sortedNames_eq]

/-- The entries of a selected structure in both schemas. -/
theorem Success.exists_entry (hsuccess : Success options spec schema profile after structs)
    (hschema : schema.Reordered schema') {struct : Structure} (hstruct : struct ∈ structs) :
    ∃ entry entry', schema.entry? struct.schemaName = some entry ∧
      schema'.entry? struct.schemaName = some entry' ∧ Schema.FieldsReordered entry entry' ∧
      Structure.Describes spec struct.schemaName entry struct.size struct.shapes := by
  obtain ⟨entry, hentry, hdescribes⟩ := (hsuccess.built struct hstruct).described
  have hchosen : struct.schemaName ∈ chosen spec schema.sortedNames := by
    rw [← hsuccess.names]
    exact List.mem_map_of_mem hstruct
  obtain ⟨entry', hentry', hfields⟩ := hschema.exists_entry (hsuccess.selects.distinct.of_map)
    (List.mem_filter.mp hchosen).2 hentry
  exact ⟨entry, entry', hentry, hentry', hfields, hdescribes⟩

theorem Success.selects_reordered (hsuccess : Success options spec schema profile after structs)
    (hspec : spec.Reordered spec') (hschema : schema.Reordered schema') :
    Selects options spec' schema' where
  profile := hsuccess.selects.profile
  usable := chosen_eq hspec hschema ▸ hsuccess.selects.usable
  distinct := chosen_eq hspec hschema ▸ hsuccess.selects.distinct
  described name hname := by
    rw [← chosen_eq hspec hschema, ← hsuccess.names] at hname
    obtain ⟨struct, hstruct, rfl⟩ := List.mem_map.mp hname
    obtain ⟨entry, entry', -, hentry', hfields, hdescribes⟩ := hsuccess.exists_entry hschema hstruct
    obtain ⟨shapes', hdescribes'⟩ :=
      hdescribes.reordered hspec hfields (hsuccess.compatible.nodup_names hstruct)
    exact ⟨entry', struct.size, shapes', hentry', hdescribes'⟩

theorem map_eq_of_keys {α β : Type} {key : α → String} {value : α → β} :
    ∀ {first second : List α}, first.map key = second.map key →
      (∀ entry ∈ first, ∀ entry' ∈ second, key entry = key entry' → value entry = value entry') →
      first.map value = second.map value
  | [], [], _, _ => rfl
  | entry :: first, entry' :: second, hkeys, hvalue => by
    obtain ⟨hkey, hrest⟩ := List.cons.inj hkeys
    rw [List.map_cons, List.map_cons,
      hvalue entry List.mem_cons_self entry' List.mem_cons_self hkey,
      map_eq_of_keys hrest fun other hother other' hother' ↦
        hvalue other (List.mem_cons_of_mem _ hother) other' (List.mem_cons_of_mem _ hother')]

/-- The structures that the other run builds have the same layouts. -/
theorem Success.layouts_eq (hsuccess : Success options spec schema profile after structs)
    (hspec : spec.Reordered spec') (hschema : schema.Reordered schema')
    (hnames : structs'.map Structure.schemaName = chosen spec' schema'.sortedNames)
    (hbuilt : ∀ struct ∈ structs', Built spec' schema' struct) :
    structs.map Structure.layout = structs'.map Structure.layout := by
  have hkeys : structs.map Structure.schemaName = structs'.map Structure.schemaName := by
    rw [hsuccess.names, hnames, chosen_eq hspec hschema]
  refine map_eq_of_keys hkeys fun struct hstruct struct' hstruct' hsame ↦ ?_
  obtain ⟨entry, entry', -, hentry, hfields, hdescribes⟩ := hsuccess.exists_entry hschema hstruct
  obtain ⟨entry'', hentry', hdescribes'⟩ := (hbuilt struct' hstruct').described
  rw [← hsame] at hentry' hdescribes'
  obtain rfl : entry' = entry'' := Option.some.inj (hentry.symm.trans hentry')
  obtain ⟨hsize, hshapes⟩ := hdescribes.perm hspec hfields hdescribes'
  have hname : struct.name = struct'.name := by
    rw [(hsuccess.built struct hstruct).name, (hbuilt struct' hstruct').name, hsame]
  exact Structure.layout_eq hname hsame hsize hshapes (hsuccess.compatible.nodup_names hstruct)

/-- A build that succeeds also succeeds on the inputs in another order. -/
theorem exists_build_reordered (hspec : spec.Reordered spec') (hschema : schema.Reordered schema')
    (hsuccess : (build spec schema).outcome { options } = (.ok profile, after)) :
    ∃ profile' after', (build spec' schema').outcome { options } = (.ok profile', after') := by
  obtain ⟨structs, hstructs⟩ := build_ok hsuccess
  refine exists_build (hstructs.selects_reordered hspec hschema) fun structs' hnames hbuilt ↦ ?_
  exact hstructs.compatible.of_layouts (hstructs.layouts_eq hspec hschema hnames hbuilt)

/-- What occurs at the end of a build is needed by a field of a layout. -/
theorem Success.occurs_iff (hsuccess : Success options spec schema profile after structs)
    (needed : Kind) : Arena.Occurs after.arena needed ↔
      ∃ layout ∈ structs.map Structure.layout, ∃ shape ∈ layout.fields, shape.kind.Needs needed := by
  rw [hsuccess.context.occurs]
  have hfields (struct : Structure) (shape : FieldShape) :
      shape ∈ struct.layout.fields ↔ shape ∈ struct.shapes :=
    struct.layout_fields_perm.mem_iff
  simp [Arena.Occurs, hfields, Structure.shapes, Member.shape, and_assoc]

end Profile

namespace Artifact

variable {options : Options} {spec spec' : Spec} {schema schema' : Schema}

def finalContext (options : Options) (spec : Spec) (schema : Schema) : Context :=
  ((Profile.build spec schema).outcome { options }).2

theorem generateWith_eq_ok_iff {text : String} :
    generateWith options spec schema = .ok text ↔
      ∃ profile, (Profile.build spec schema).outcome { options } =
          (.ok profile, finalContext options spec schema) ∧
        (code (finalContext options spec schema) profile).text = text := by
  have hgenerate : generateWith options spec schema =
      ((Profile.build spec schema).outcome { options }).1.map fun profile ↦
        (code (finalContext options spec schema) profile).text :=
    rfl
  rw [hgenerate, finalContext]
  rcases (Profile.build spec schema).outcome { options } with ⟨error | profile, after⟩
  · simp [Except.map]
  · simp [Except.map]

theorem exists_generateWith_reordered (hspec : spec.Reordered spec')
    (hschema : schema.Reordered schema') {text : String}
    (hgenerate : generateWith options spec schema = .ok text) :
    ∃ text', generateWith options spec' schema' = .ok text' := by
  obtain ⟨profile, hbuild, -⟩ := generateWith_eq_ok_iff.mp hgenerate
  obtain ⟨profile', after', hbuild'⟩ := Profile.exists_build_reordered hspec hschema hbuild
  refine ⟨_, generateWith_eq_ok_iff.mpr ⟨profile', ?_, rfl⟩⟩
  rw [finalContext, hbuild']

/-- A run succeeds on inputs in any order or on none, and gives one text where it does. -/
theorem generateWith_reordered (hspec : spec.Reordered spec') (hschema : schema.Reordered schema') :
    ((∃ text, generateWith options spec schema = .ok text) ↔
      ∃ text, generateWith options spec' schema' = .ok text) ∧
    ((finalContext options spec schema).KeysApart → ∀ text,
      generateWith options spec schema = .ok text → generateWith options spec' schema' = .ok text) := by
  refine ⟨⟨?_, ?_⟩, ?_⟩
  · rintro ⟨text, hgenerate⟩
    exact exists_generateWith_reordered hspec hschema hgenerate
  · rintro ⟨text, hgenerate⟩
    exact exists_generateWith_reordered hspec.symm hschema.symm hgenerate
  · intro hapart text hgenerate
    obtain ⟨profile, hbuild, rfl⟩ := generateWith_eq_ok_iff.mp hgenerate
    obtain ⟨profile', after', hbuild'⟩ := Profile.exists_build_reordered hspec hschema hbuild
    have hfinal : finalContext options spec' schema' = after' := by rw [finalContext, hbuild']
    obtain ⟨structs, hsuccess⟩ := Profile.build_ok hbuild
    obtain ⟨structs', hsuccess'⟩ := Profile.build_ok hbuild'
    have hlayouts := hsuccess.layouts_eq hspec hschema hsuccess'.names hsuccess'.built
    have hoccurs : ∀ kind, Arena.Occurs (finalContext options spec schema).arena kind ↔
        Arena.Occurs after'.arena kind := by
      intro kind
      rw [hsuccess.occurs_iff, hsuccess'.occurs_iff, hlayouts]
    have hhelpers := hsuccess.sound.helpers_eq hsuccess'.sound hapart hoccurs
    have hoptions := hsuccess.sound.configured.trans hsuccess'.sound.configured.symm
    have hcode : code (finalContext options spec schema) profile = code after' profile' := by
      refine code_eq hoptions hhelpers ?_ ?_
      · rw [hsuccess.profile, hsuccess'.profile]
      · rw [hsuccess.profile, hsuccess'.profile]
        exact Profile.layouts_sorted hlayouts
    refine generateWith_eq_ok_iff.mpr ⟨profile', ?_, ?_⟩
    · rw [hbuild', hfinal]
    · rw [hfinal, hcode]

def countField : String × Json :=
  ("count", .array [.number (.natural 0), .string "unsigned int"])

def itemsField : String × Json :=
  ("items", .array [.number (.natural 4), .array [.string "Array",
    .object [("target", .string "Enumeration"),
      ("target_args", .object [("choices", .object [("1", .string "one")])]),
      ("count", .string "count")]]])

def fileEntry (fields : List (String × Json)) : String × Json :=
  ("_File", .array [.number (.natural 8), .object fields])

def otherEntry : String × Json :=
  ("_Other", .null)

def fileSpec : Spec :=
  { structs := ["_File"], allow := [("_File", ["count", "items"])] }

def fileSchema : Schema :=
  ⟨[fileEntry [countField, itemsField], otherEntry]⟩

def shuffledSpec : Spec :=
  { structs := ["_File", "_File"], allow := [("_File", ["items", "count", "items"])] }

def shuffledSchema : Schema :=
  ⟨[otherEntry, fileEntry [itemsField, countField]]⟩

def fileStructure : Structure :=
  ⟨"File", "_File", 8,
    [⟨⟨0, ⟨0, .integer ⟨.w32, false⟩, none⟩⟩, "count"⟩,
     ⟨⟨2, ⟨4, .array (.sibling "count") (.enumeration ⟨.w64, [(1, "one")]⟩), some 1⟩⟩, "items"⟩]⟩

theorem compatible_fileStructure : Profile.Compatible [fileStructure] :=
  Profile.compatible_singleton (by decide +kernel) (by decide +kernel)

/-- The run in question comes to its end, and no keys collide. -/
theorem outcome_fileSchema : ∃ after,
    (Profile.build fileSpec fileSchema).outcome { options := {} } =
      (.ok ⟨"Profile", Profile.sorted [fileStructure]⟩, after) ∧ after.KeysApart := by
  have hnames : fileSchema.sortedNames = ["_File", "_Other"] :=
    List.mergeSort_of_pairwise (by decide +kernel)
  have hstructs : ((Profile.buildStructures fileSpec fileSchema "Profile" []
      ["_File", "_Other"]).outcome (Profile.start {} fileSpec fileSchema)).1.toOption =
        some [fileStructure] := by decide +kernel
  have hapart : ((Profile.buildStructures fileSpec fileSchema "Profile" []
      ["_File", "_Other"]).outcome (Profile.start {} fileSpec fileSchema)).2.KeysApart :=
    Context.keysApart_of_closures (by decide +kernel)
  exact ⟨_, Profile.outcome_build_of_names rfl hnames hstructs compatible_fileStructure, hapart⟩

theorem generateWith_reordered_file :
    ∃ text, generateWith {} fileSpec fileSchema = .ok text ∧
      generateWith {} shuffledSpec shuffledSchema = .ok text := by
  have hspec : fileSpec.Reordered shuffledSpec := by
    refine ⟨fun name ↦ by simp [fileSpec, shuffledSpec], fun struct ↦ ?_, fun struct ↦ .none⟩
    simp only [fileSpec, shuffledSpec, List.lookup]
    split
    · exact .some fun name ↦ by simp only [List.mem_cons, List.not_mem_nil]; tauto
    · exact .none
  have hschema : fileSchema.Reordered shuffledSchema :=
    ⟨_, .swap _ _ _, .cons ⟨rfl, .refl _⟩ (.cons ⟨rfl, .fields _ _ (.swap _ _ _)⟩ .nil)⟩
  obtain ⟨after, hbuild, hapart⟩ := outcome_fileSchema
  have hfinal : finalContext {} fileSpec fileSchema = after := by rw [finalContext, hbuild]
  have hgenerate := generateWith_eq_ok_iff.mpr ⟨_, hfinal.symm ▸ hbuild, rfl⟩
  exact ⟨_, hgenerate, (generateWith_reordered hspec hschema).2 (hfinal.symm ▸ hapart) _ hgenerate⟩

end Artifact

end BinaryLayout
