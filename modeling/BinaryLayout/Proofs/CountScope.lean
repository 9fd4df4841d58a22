import BinaryLayout.Proofs.ArenaGrowth
import BinaryLayout.Proofs.ArrayWalk
import BinaryLayout.Proofs.OffsetOverride

/-!
# Counts in Scope

An array may take its count from another field of its structure. Only the accessor of the array has the
structure at hand, so such an array must be a field itself and no element of an array or pointer. The
check of this comes after the fields of a structure are resolved, when the helpers of an array that it
refuses are already recorded; in a profile that is built none of these is left, and the text that stands
in for a count where there is no structure occurs nowhere. What the accessor of a field calls, with the
counts that it finds there, evaluates to the value of the field.
-/

namespace BinaryLayout

open Code (Part)

namespace Kind

def sibling? : Kind → Option String
  | .array (.sibling field) _ => some field
  | _ => none

theorem eq_of_sibling? {kind : Kind} {field : String} (hsibling : kind.sibling? = some field) :
    ∃ element, kind = .array (.sibling field) element := by
  unfold sibling? at hsibling
  split at hsibling
  · cases hsibling
    exact ⟨_, rfl⟩
  · cases hsibling

abbrev Contains : Kind → Kind → Prop :=
  Relation.TransGen fun kind element ↦ kind.element? = some element

theorem Contains.of_element {kind element inner : Kind} (helement : kind.element? = some element)
    (hinner : element = inner ∨ element.Contains inner) : kind.Contains inner := by
  rcases hinner with rfl | hcontains
  · exact .single helement
  · exact .head helement hcontains

theorem nestedSibling?_of_leaf {kind : Kind} (hleaf : kind.element? = none) :
    kind.nestedSibling? = none := by
  cases kind <;> simp_all [element?, nestedSibling?]

theorem nestedSibling?_of_element {kind element : Kind} (helement : kind.element? = some element) :
    kind.nestedSibling? = element.sibling?.or element.nestedSibling? := by
  have houter : kind.nestedSibling? = (Kind.pointer element).nestedSibling? := by
    cases kind <;> simp_all [element?, nestedSibling?]
  rw [houter]
  cases element with
  | array count inner => cases count <;> simp [sibling?, nestedSibling?]
  | _ => rfl

theorem sibling?_eq_none_of_contains {kind inner : Kind} (hnone : kind.nestedSibling? = none)
    (hcontains : kind.Contains inner) : inner.sibling? = none := by
  induction hcontains using Relation.TransGen.head_induction_on with
  | single helement =>
    rw [nestedSibling?_of_element helement, Option.or_eq_none_iff] at hnone
    exact hnone.1
  | head helement _ ih =>
    rw [nestedSibling?_of_element helement, Option.or_eq_none_iff] at hnone
    exact ih hnone.2

/-- The field that a check finds below a kind is the count of an array there. -/
theorem exists_contains_of_nestedSibling? {kind : Kind} {count : String}
    (hcount : kind.nestedSibling? = some count) :
    ∃ inner, kind.Contains inner ∧ inner.sibling? = some count := by
  induction kind using element_induction with
  | leaf kind hleaf =>
    rw [nestedSibling?_of_leaf hleaf] at hcount
    cases hcount
  | step kind element helement ih =>
    rw [nestedSibling?_of_element helement] at hcount
    rcases Option.or_eq_some_iff.mp hcount with hown | ⟨-, hnested⟩
    · exact ⟨element, .single helement, hown⟩
    · obtain ⟨inner, hcontains, hinner⟩ := ih hnested
      exact ⟨inner, .head helement hcontains, hinner⟩

theorem nestedSibling?_eq_none_iff (kind : Kind) :
    kind.nestedSibling? = none ↔ ∀ inner, kind.Contains inner → inner.sibling? = none := by
  constructor
  · intro hnone inner hcontains
    exact sibling?_eq_none_of_contains hnone hcontains
  · intro hall
    cases hcount : kind.nestedSibling? with
    | none => rfl
    | some count =>
      obtain ⟨inner, hcontains, hinner⟩ := exists_contains_of_nestedSibling? hcount
      rw [hall inner hcontains] at hinner
      cases hinner

/-- The kinds that a kind calls for are itself, those below it, and integers. -/
theorem Needs.cases {kind needed : Kind} (hneeds : kind.Needs needed) :
    needed = kind ∨ kind.Contains needed ∨ ∃ type, needed = .integer type := by
  induction hneeds with
  | refl => exact Or.inl rfl
  | tail _ hcalls ih =>
    rcases calls_cases hcalls with helement | hinteger
    · rcases ih with rfl | hcontains | ⟨type, rfl⟩
      · exact Or.inr (Or.inl (.single helement))
      · exact Or.inr (Or.inl (.tail hcontains helement))
      · cases helement
    · exact Or.inr (Or.inr hinteger)

theorem not_contains_integer {type : IntegerType} {inner : Kind} :
    ¬ (Kind.integer type).Contains inner := by
  intro hcontains
  obtain ⟨_, helement, -⟩ := Relation.TransGen.head'_iff.mp hcontains
  cases helement

/-- Where no count is taken from a field, an accessor has the expression that a helper would have. -/
theorem decodeExpression_accessor (options : Options) {kind : Kind} (hown : kind.sibling? = none)
    (hnested : kind.nestedSibling? = none) :
    kind.decodeExpression options .accessor = kind.decodeExpression options .helper := by
  induction kind with
  | array count element _ =>
    cases count with
    | fixed count => rfl
    | sibling field => cases hown
  | pointer element ih =>
    rw [nestedSibling?_of_element rfl, Option.or_eq_none_iff] at hnested
    rw [decodeExpression, ih hnested.1 hnested.2, decodeExpression]
  | _ => rfl

/-- Two placeholders give the same code where the texts of counts are the same. -/
theorem decodeCode_eq_of_countText {placeholder : String} {options : Options} {site : Site}
    (kind : Kind) :
    (∀ count element, kind = .array count element ∨ kind.Contains (.array count element) →
      countText options site count placeholder = countText options site count) →
    kind.decodeCode options site placeholder = kind.decodeCode options site := by
  induction kind with
  | array count element _ =>
    intro hcounts
    rw [decodeCode, hcounts count element (.inl rfl), decodeCode]
  | pointer element ih =>
    intro hcounts
    have helement := ih (by
      intro count inner hinner
      apply hcounts count inner
      exact Or.inr (Contains.of_element rfl hinner))
    rw [decodeCode, helement, decodeCode]
  | _ => exact fun _ ↦ rfl

/-- An accessor asks its structure for every count. -/
theorem accessorCode_placeholder (options : Options) (owner field placeholder : String) (kind : Kind) :
    kind.accessorCode options owner field placeholder = kind.accessorCode options owner field := by
  have hcode : kind.decodeCode options .accessor placeholder = kind.decodeCode options .accessor := by
    apply decodeCode_eq_of_countText
    intro count element _
    cases count <;> rfl
  rw [accessorCode, hcode, accessorCode]

/-- A helper of a kind without such arrays below it has no placeholder. -/
theorem helperCode_placeholder (options : Options) (placeholder : String) {kind : Kind}
    (hbelow : ∀ inner, kind.Contains inner → inner.sibling? = none) :
    kind.helperCode options placeholder = kind.helperCode options := by
  cases kind with
  | array count element =>
    have hcode : element.decodeCode options .helper placeholder = element.decodeCode options .helper := by
      apply decodeCode_eq_of_countText
      intro count inner hinner
      have hnone : (Kind.array count inner).sibling? = none := by
        apply hbelow
        exact Contains.of_element rfl hinner
      cases count with
      | fixed count => rfl
      | sibling field => cases hnone
    rw [helperCode, Helper.arrayCode, hcode]
    rfl
  | text encoding length => cases encoding <;> rfl
  | _ => rfl

-- A helper for pointers to arrays that take their count from a field would have the placeholder.
example :
    (Kind.array (.fixed 2) (.pointer (.array (.sibling "n") .word))).helperCode {} "7" ≠
      (Kind.array (.fixed 2) (.pointer (.array (.sibling "n") .word))).helperCode {} := by
  decide +kernel

end Kind

/-! ## Fields of the arena and their owners -/

namespace Arena

/-- What the arena has gained are the given fields and fields of kinds below theirs, each with its
element right before it. -/
structure Owned (before after : Array Field) (owners : List Numbered) : Prop where
  fields : ∀ number field, after[number]? = some field → before[number]? = some field ∨
    ∃ owner ∈ owners, owner = ⟨number, field⟩ ∨ owner.field.kind.Contains field.kind
  linked : Linked before → Linked after

theorem Owned.refl (arena : Array Field) : Owned arena arena [] where
  fields _ _ hfield := Or.inl hfield
  linked hlinked := hlinked

theorem Owned.trans {before middle after : Array Field} {owners owners' : List Numbered}
    (hfirst : Owned before middle owners) (hsecond : Owned middle after owners') :
    Owned before after (owners ++ owners') where
  fields number field hfield := by
    rcases hsecond.fields number field hfield with hmiddle | ⟨owner, howner, hown⟩
    · rcases hfirst.fields number field hmiddle with hbefore | ⟨owner, howner, hown⟩
      · exact Or.inl hbefore
      · exact Or.inr ⟨owner, List.mem_append_left _ howner, hown⟩
    · exact Or.inr ⟨owner, List.mem_append_right _ howner, hown⟩
  linked hlinked := hsecond.linked (hfirst.linked hlinked)

theorem getElem?_push_cases {arena : Array Field} {next field : Field} {number : Nat}
    (hfield : (arena.push next)[number]? = some field) :
    arena[number]? = some field ∨ number = arena.size ∧ next = field := by
  rw [Array.getElem?_push] at hfield
  split at hfield
  · rename_i hlast
    exact Or.inr ⟨hlast, Option.some.inj hfield⟩
  · exact Or.inl hfield

end Arena

namespace Context

/-- Installing a kind adds its field, and fields for the kinds below it. -/
theorem fields_install (outside : Option String) (kind : Kind) :
    ∀ (offset : UInt64) (context : Context) (number : Nat) (field : Field),
      (context.install outside kind offset).2.arena[number]? = some field →
      context.arena[number]? = some field ∨
        (context.install outside kind offset).1 = ⟨number, field⟩ ∨
        kind.Contains field.kind := by
  induction kind using Kind.element_induction with
  | leaf kind hleaf =>
    intro offset context number field hfield
    obtain ⟨reported, harena, -, -, hinstall⟩ := install_of_leaf hleaf outside offset context
    rw [hinstall] at hfield ⊢
    simp only [allocate, register_arena, harena] at hfield ⊢
    rcases Arena.getElem?_push_cases hfield with hbefore | ⟨rfl, rfl⟩
    · exact Or.inl hbefore
    · exact Or.inr (Or.inl rfl)
  | step kind element helement ih =>
    intro offset context number field hfield
    have hinner := (install_field outside element 0 context).1
    rw [install_of_element helement] at hfield ⊢
    simp only [allocate, register_arena] at hfield ⊢
    rcases Arena.getElem?_push_cases hfield with hbefore | ⟨rfl, rfl⟩
    · rcases ih 0 context number field hbefore with hold | hsame | hcontains
      · exact Or.inl hold
      · rw [hsame] at hinner
        exact Or.inr (Or.inr (.single (helement.trans (congrArg some hinner.symm))))
      · exact Or.inr (Or.inr (.head helement hcontains))
    · exact Or.inr (Or.inl rfl)

theorem owned_install (outside : Option String) (kind : Kind) (offset : UInt64) (context : Context) :
    Arena.Owned context.arena (context.install outside kind offset).2.arena
      [(context.install outside kind offset).1] where
  fields number field hfield := by
    apply (fields_install outside kind offset context number field hfield).imp_right
    intro hown
    refine ⟨_, List.mem_singleton_self _, ?_⟩
    rw [(install_field outside kind offset context).1]
    exact hown
  linked hlinked := hlinked.appends (install_appends outside kind offset context).2

end Context

theorem Structure.MembersBuilt.owned {spec : Spec} {schemaName : String}
    {fields : List (String × Json)} {members : List Member} {context after : Context}
    (hbuilt : MembersBuilt spec schemaName fields context members after) :
    Arena.Owned context.arena after.arena (members.map Member.toNumbered) := by
  induction hbuilt with
  | nil context => exact .refl _
  | @passed name _ _ context _ _ _ _ ih =>
    have hreported : (context.report (.filtered schemaName name)).arena = context.arena := rfl
    rwa [hreported] at ih
  | @installed _ _ _ context _ _ found outside _ _ _ _ ih =>
    exact (Context.owned_install outside found.description.kind found.offset context).trans ih

namespace Profile

theorem StructuresBuilt.owned {spec : Spec} {schema : Schema} {profile : String} {names : List String}
    {taken : List (String × String)} {structs : List Structure} {context after : Context}
    (hbuilt : StructuresBuilt spec schema profile taken names context structs after) :
    Arena.Owned context.arena after.arena
      (structs.flatMap fun struct ↦ struct.members.map Member.toNumbered) := by
  induction hbuilt with
  | nil taken context => exact .refl _
  | passed _ _ ih => exact ih
  | built _ _ _ _ hstruct _ ih =>
    obtain ⟨size, fields, members, -, hmembers, rfl, -⟩ := Structure.exists_membersBuilt hstruct
    exact hmembers.owned.trans ih

variable {options : Options} {spec : Spec} {schema : Schema} {profile : Profile} {final : Context}

/-- Every field of the arena of a profile is a field of a structure, or lies below one. -/
theorem owned_build (hbuild : (build spec schema).outcome { options } = (.ok profile, final)) :
    Arena.Linked final.arena ∧ ∀ number field, final.arena[number]? = some field →
      ∃ struct ∈ profile.structures, ∃ member ∈ struct.members,
        member.toNumbered = ⟨number, field⟩ ∨ member.field.kind.Contains field.kind := by
  obtain ⟨structs, hbuilt, -, -, rfl⟩ := exists_structuresBuilt hbuild
  have howned := hbuilt.owned
  refine ⟨howned.linked Arena.linked_empty, ?_⟩
  intro number field hfield
  rcases howned.fields number field hfield with hstart | ⟨owner, howner, hown⟩
  · simp [start, Context.warnAll] at hstart
  · obtain ⟨struct, hstruct, howner⟩ := List.mem_flatMap.mp howner
    obtain ⟨member, hmember, rfl⟩ := List.mem_map.mp howner
    exact ⟨struct, List.mem_mergeSort.mpr hstruct, member, hmember, hown⟩

end Profile

/-! ## Counts that are in scope -/

namespace Structure

/-- The field takes a count, if at all, from an integer among the fields, and no array below it takes
one. -/
structure InScope (shapes : List FieldShape) (shape : FieldShape) : Prop where
  own : ∀ count, shape.kind.sibling? = some count →
    ∃ sibling, shapes.find? (·.name == count) = some sibling ∧ isCount sibling.kind = true
  below : ∀ inner, shape.kind.Contains inner → inner.sibling? = none

theorem countsResolve_iff (shapes : List FieldShape) :
    CountsResolve shapes ↔ ∀ shape ∈ shapes, InScope shapes shape := by
  have hown (shape : FieldShape) (count : String) :
      shape.kind.sibling? = some count ↔ ∃ element, shape.kind = .array (.sibling count) element := by
    cases hkind : shape.kind with
    | array sizing element => cases sizing <;> simp [Kind.sibling?]
    | _ => simp [Kind.sibling?]
  apply forall₂_congr
  intro shape _
  rw [Kind.nestedSibling?_eq_none_iff]
  constructor
  · rintro ⟨hbelow, hcounts⟩
    refine ⟨?_, hbelow⟩
    intro count hcount
    obtain ⟨element, hkind⟩ := (hown shape count).mp hcount
    exact hcounts count element hkind
  · rintro ⟨hcounts, hbelow⟩
    refine ⟨hbelow, ?_⟩
    intro count element hkind
    exact hcounts count ((hown shape count).mpr ⟨element, hkind⟩)

/-- What the fault that is found with the count of a field says about it. -/
def Faulty (shapes : List FieldShape) (shape : FieldShape) (count : String) : CountFault → Prop
  | .absent => shape.kind.sibling? = some count ∧ shapes.find? (·.name == count) = none
  | .notInteger => shape.kind.sibling? = some count ∧
    ∃ sibling, shapes.find? (·.name == count) = some sibling ∧ isCount sibling.kind = false
  | .nested => ∃ inner, shape.kind.Contains inner ∧ inner.sibling? = some count

theorem sibling?_of_isCount {kind : Kind} (hcount : isCount kind = true) : kind.sibling? = none := by
  cases kind with
  | array => cases hcount
  | _ => rfl

/-- The error about a field names the field and its count, and is right about them. -/
theorem exists_of_countError? {struct : Structure} {member : Member} {error : BuildError}
    (herror : struct.countError? member = some error) :
    ∃ count fault, error = .countField struct.schemaName member.name count fault ∧
      Faulty struct.shapes member.shape count fault := by
  unfold countError? at herror
  rcases Option.or_eq_some_iff.mp herror with hown | ⟨-, hnested⟩
  · split at hown
    · rename_i count element hkind
      have hsibling : member.shape.kind.sibling? = some count := by
        rw [Member.shape, hkind]
        rfl
      split at hown
      · rename_i hnone
        refine ⟨count, .absent, (Option.some.inj hown).symm, hsibling, ?_⟩
        rw [find?_shapes, hnone, Option.map_none]
      · rename_i sibling hfound
        have hshape : struct.shapes.find? (·.name == count) = some sibling.shape := by
          rw [find?_shapes, hfound, Option.map_some]
        split at hown
        · cases hown
        · cases hown
        · rename_i hinteger hbits
          refine ⟨count, .notInteger, (Option.some.inj hown).symm, hsibling, _, hshape, ?_⟩
          rw [Member.shape]
          unfold isCount
          split
          · rename_i type htype
            exact absurd htype (hinteger type)
          · rename_i field hfield
            exact absurd hfield (hbits field)
          · rfl
    · cases hown
  · obtain ⟨count, hcount, rfl⟩ := Option.map_eq_some_iff.mp hnested
    exact ⟨count, .nested, rfl, Kind.exists_contains_of_nestedSibling? hcount⟩

/-- The entry of a structure gives this size and, of the fields that are kept, these shapes. Nothing is
said about counts. -/
def Lists (spec : Spec) (schemaName : String) (entry : Json) (size : UInt64)
    (shapes : List FieldShape) : Prop :=
  ∃ fields, entryParts schemaName entry = .ok (size, fields) ∧
    (∀ field ∈ kept spec schemaName fields, (FieldShape.ofField? field).isSome) ∧
    shapes = (kept spec schemaName fields).filterMap FieldShape.ofField?

theorem Lists.unique {spec : Spec} {schemaName : String} {entry : Json} {size size' : UInt64}
    {shapes shapes' : List FieldShape} (hfirst : Lists spec schemaName entry size shapes)
    (hsecond : Lists spec schemaName entry size' shapes') : shapes = shapes' := by
  obtain ⟨fields, hparts, -, rfl⟩ := hfirst
  obtain ⟨fields', hparts', -, rfl⟩ := hsecond
  obtain ⟨-, rfl⟩ := Prod.mk.inj (Except.ok.inj (hparts.symm.trans hparts'))
  rfl

/-- A structure whose fields can be read is built, or one of its counts is at fault. -/
theorem Lists.build_cases {spec : Spec} {schemaName : String} {entry : Json} {size : UInt64}
    {shapes : List FieldShape} (hlists : Lists spec schemaName entry size shapes) (context : Context) :
    (CountsResolve shapes ∧ ∃ struct after,
      (build spec schemaName entry).outcome context = (.ok struct, after)) ∨
    ∃ shape ∈ shapes, ∃ count fault after, Faulty shapes shape count fault ∧
      (build spec schemaName entry).outcome context =
        (.error (.countField schemaName shape.name count fault), after) := by
  obtain ⟨fields, hparts, hall, rfl⟩ := hlists
  obtain ⟨members, after, hmembers⟩ := exists_buildMembers spec schemaName fields context hall
  obtain ⟨-, hshapes, -⟩ := (membersBuilt_of_ok hmembers).shapes
  let struct : Structure := ⟨Name.canonical schemaName, schemaName, size, members⟩
  have hstruct : struct.shapes = (kept spec schemaName fields).filterMap FieldShape.ofField? := hshapes
  have hbuild : (build spec schemaName entry).outcome context =
      ((struct.members.findSome? struct.countError?).elim (.ok struct) .error, after) := by
    simp only [build, Attempt.outcome_bind, Attempt.outcome_except, hparts, hmembers]
    cases struct.members.findSome? struct.countError? <;> rfl
  rw [hbuild, ← hstruct]
  cases hcounts : struct.members.findSome? struct.countError? with
  | none => exact Or.inl ⟨(countErrors_eq_none_iff struct).mp hcounts, struct, after, rfl⟩
  | some error =>
    obtain ⟨member, hmember, herror⟩ := List.exists_of_findSome?_eq_some hcounts
    obtain ⟨count, fault, rfl, hfaulty⟩ := exists_of_countError? herror
    exact Or.inr ⟨member.shape, List.mem_map_of_mem hmember, count, fault, after, hfaulty, rfl⟩

end Structure

namespace Profile

/-- The structure of the schema has these shapes for the fields that a run keeps. -/
def HasShapes (spec : Spec) (schema : Schema) (name : String) (shapes : List FieldShape) : Prop :=
  ∃ entry size, schema.entry? name = some entry ∧ Structure.Lists spec name entry size shapes

theorem HasShapes.unique {spec : Spec} {schema : Schema} {name : String}
    {shapes shapes' : List FieldShape} (hfirst : HasShapes spec schema name shapes)
    (hsecond : HasShapes spec schema name shapes') : shapes = shapes' := by
  obtain ⟨entry, size, hentry, hlists⟩ := hfirst
  obtain ⟨entry', size', hentry', hlists'⟩ := hsecond
  obtain rfl : entry = entry' := Option.some.inj (hentry.symm.trans hentry')
  exact hlists.unique hlists'

/-- What a run selects can be read, whatever the counts of its arrays are. -/
structure Readable (options : Options) (spec : Spec) (schema : Schema) : Prop where
  profile : isUsableName options.profile = true
  usable : ∀ name ∈ chosen spec schema.sortedNames,
    isStructName options.profile (Name.canonical name) = true
  distinct : ((chosen spec schema.sortedNames).map Name.canonical).Nodup
  listed : ∀ name ∈ chosen spec schema.sortedNames, ∃ shapes, HasShapes spec schema name shapes

/-- The error is about the count of a field in one of the structures, and is right about it. -/
def Blames (spec : Spec) (schema : Schema) (names : List String) (error : BuildError) : Prop :=
  ∃ name ∈ names, ∃ shapes, HasShapes spec schema name shapes ∧
    ∃ shape ∈ shapes, ∃ count fault, Structure.Faulty shapes shape count fault ∧
      error = .countField name shape.name count fault

/-- A count out of scope in one structure is an error about a count, if all structures can be read. -/
theorem Readable.exists_blames {options : Options} {spec : Spec} {schema : Schema}
    (hreadable : Readable options spec schema) {name : String}
    (hname : name ∈ chosen spec schema.sortedNames) {shapes : List FieldShape}
    (hshapes : HasShapes spec schema name shapes) {shape : FieldShape} (hshape : shape ∈ shapes)
    (hscope : ¬ Structure.InScope shapes shape) :
    ∃ error after, Blames spec schema (chosen spec schema.sortedNames) error ∧
      (build spec schema).outcome { options } = (.error error, after) := by
  rcases buildStructures_cases schema.sortedNames
    (contains_sortedNames schema) hreadable.distinct []
    (start options spec schema) (fun name hname ↦ ⟨hreadable.usable name hname, rfl⟩) with
    ⟨structs, after, hbuilt⟩ | ⟨refused, hrefused, entry, before, error, after, hentry, hbuild, herror⟩
  · -- All structures were built, so the counts of this one resolve.
    obtain ⟨horder, hall, -⟩ := (structuresBuilt_of_ok
      (contains_sortedNames schema) hbuilt).described
    rw [← horder] at hname
    obtain ⟨struct, hstruct, rfl⟩ := List.mem_map.mp hname
    obtain ⟨entry, hentry, hdescribes⟩ := (hall struct hstruct).described
    obtain rfl := hshapes.unique ⟨entry, struct.size, hentry, hdescribes.parts⟩
    exact absurd ((Structure.countsResolve_iff _).mp hdescribes.counts shape hshape) hscope
  · obtain ⟨found, entry', size, hentry', hlists⟩ := hreadable.listed refused hrefused
    obtain rfl : entry = entry' := Option.some.inj (hentry.symm.trans hentry')
    rcases hlists.build_cases before with
      ⟨-, struct, middle, hstruct⟩ | ⟨shape, hshape, count, fault, middle, hfaulty, hfault⟩
    · cases hbuild.symm.trans hstruct
    · obtain ⟨hsame, -⟩ := Prod.mk.inj (hbuild.symm.trans hfault)
      obtain rfl := Except.error.inj hsame
      refine ⟨_, after, ⟨refused, hrefused, found, ⟨entry, size, hentry, hlists⟩, shape, hshape, count,
        fault, hfaulty, rfl⟩, ?_⟩
      rw [outcome_build, if_pos hreadable.profile, herror]

end Profile

/-- The number that a value stands for, if it is one that can be a count. -/
def Value.number? : Value → Option Int
  | .integer _ value => some value
  | .bits value => some value.toNat
  | _ => none

namespace Decoder

theorem littleEndian_lt (bytes : List UInt8) : littleEndian bytes < 256 ^ bytes.length := by
  induction bytes with
  | nil => simp [littleEndian]
  | cons byte rest ih =>
    have hbyte := byte.toNat_lt
    rw [littleEndian, List.length_cons, pow_succ]
    omega

theorem raw_lt (decoder : Decoder) (width : Width) (offset : UInt64) :
    decoder.raw width offset < width.cardinality := by
  have hcardinality : width.cardinality = 256 ^ width.bytes := by cases width <;> rfl
  rw [hcardinality, raw]
  split
  · rename_i hlength
    have hbytes := littleEndian_lt (decoder.bytesAt offset width.bytes)
    rwa [hlength] at hbytes
  · positivity

/-- An integer of at most 64 bits, signed or not. -/
theorem integer_bounds (decoder : Decoder) (type : IntegerType) (offset : UInt64) :
    -2 ^ 63 ≤ decoder.integer type offset ∧ decoder.integer type offset < 2 ^ 64 := by
  have hraw := decoder.raw_lt type.width offset
  have hwidth : type.width.cardinality ≤ 2 ^ 64 := by cases type.width <;> decide
  rw [integer, IntegerType.interpret]
  split <;> omega

/-- The number that is read as a count is the signed one with the same bits. -/
theorem asCount_of_isCount (decoder : Decoder) {kind : Kind} (hcount : Structure.isCount kind = true)
    (offset : UInt64) :
    ∃ number, (decoder.value kind offset).number? = some number ∧
      -2 ^ 63 ≤ number ∧ number < 2 ^ 64 ∧
      (decoder.value kind offset).asCount = number.bmod (2 ^ 64) := by
  cases kind with
  | integer type =>
    obtain ⟨hlow, hhigh⟩ := decoder.integer_bounds type offset
    exact ⟨_, rfl, hlow, hhigh, Int64.toInt_ofInt⟩
  | bitField field =>
    have hbits := (decoder.bitField field offset).toNat_lt
    exact ⟨_, rfl, by omega, by omega, BitVec.toInt_eq_toNat_bmod _⟩
  | _ => cases hcount

/-- A number with the highest of its 64 bits set is no count. -/
theorem clamp_bmod (decoder : Decoder) {number : Int} (hlow : -2 ^ 63 ≤ number)
    (hhigh : number < 2 ^ 64) :
    decoder.clamp (number.bmod (2 ^ 64)) =
      if 0 ≤ number ∧ number < 2 ^ 63 then min number.toNat decoder.arrayLimit else 0 := by
  unfold clamp
  split
  · rename_i hrange
    rw [Int.bmod_eq_of_le (by omega) (by omega)]
  · rename_i hrange
    have hnegative : (number.bmod (2 ^ 64)).toNat = 0 := by
      rw [Int.bmod_def]
      split <;> omega
    rw [hnegative, Nat.zero_min]

end Decoder

namespace View

theorem memberValue_of_sibling? (view : View) (struct : Structure) {member : Member}
    (hnone : member.field.kind.sibling? = none) (base : UInt64) :
    view.memberValue struct base member =
      view.decoder.value member.field.kind (view.position struct member.name base) := by
  unfold memberValue
  split
  · rename_i hkind
    rw [hkind] at hnone
    cases hnone
  · rfl

end View

namespace Profile

/-! ## Profiles that are built -/

/-- Every count in the profile is in scope. -/
structure CountsScoped (options : Options) (profile : Profile) (final : Context) : Prop where
  /-- An array that takes its count from a field is a field of a structure, and so is its count. -/
  owned : ∀ (number : Nat) (field : Field) (count : String), final.arena[number]? = some field →
    field.kind.sibling? = some count →
    ∃ struct ∈ profile.structures, ∃ member ∈ struct.members, member.toNumbered = ⟨number, field⟩ ∧
      ∃ sibling ∈ struct.members, sibling.name = count ∧ Structure.isCount sibling.field.kind = true
  /-- No array or pointer leads to one. -/
  targets : ∀ (number target : Nat) (field inner : Field), final.arena[number]? = some field →
    field.target = some target → final.arena[target]? = some inner → inner.kind.sibling? = none
  below : ∀ (number : Nat) (field : Field) (inner : Kind), final.arena[number]? = some field →
    field.kind.Contains inner → inner.sibling? = none
  accessors : ∀ struct ∈ profile.structures, ∀ member ∈ struct.members, ∀ placeholder,
    member.field.kind.accessorCode options struct.name member.name placeholder =
      member.field.kind.accessorCode options struct.name member.name
  helpers : ∀ identity code, (identity, code) ∈ final.helpers →
    ∃ kind, Arena.Occurs final.arena kind ∧ kind.identity? options = some identity ∧
      ∀ placeholder, kind.helperCode options placeholder = code
  /-- Reading a field is evaluating the expression in its accessor, which may ask other accessors. -/
  evaluated : ∀ view, View.Of profile view → ∀ struct ∈ profile.structures, ∀ member ∈ struct.members,
    member.field.kind.decodeCode view.options .accessor =
      (member.field.kind.decodeExpression view.options .accessor).code .accessor ∧
    ∀ base, (member.field.kind.decodeExpression view.options .accessor).eval view.decoder
        (fun field ↦ (view.get? struct.name base field).map Value.asCount)
        (view.position struct member.name base) =
      view.get? struct.name base member.name
  /-- The array has as many elements as the number says that is read for its count. -/
  decoded : ∀ view, View.Of profile view → ∀ struct ∈ profile.structures, ∀ member ∈ struct.members,
    ∀ count element, member.field.kind = .array (.sibling count) element → ∀ base,
      ∃ value number items, view.get? struct.name base count = some value ∧
        value.number? = some number ∧ view.get? struct.name base member.name = some (.array items) ∧
        items.length =
          if 0 ≤ number ∧ number < 2 ^ 63 then min number.toNat view.options.arrayLimit else 0

namespace Success

variable {options : Options} {spec : Spec} {schema : Schema} {profile : Profile} {final : Context}
  {structs : List Structure} {struct : Structure} {member : Member}

theorem inScope (hsuccess : Success options spec schema profile final structs)
    (hstruct : struct ∈ profile.structures) (hmember : member ∈ struct.members) :
    Structure.InScope struct.shapes member.shape := by
  obtain ⟨entry, -, hdescribes⟩ :=
    (hsuccess.built struct ((hsuccess.mem_structures struct).mp hstruct)).described
  exact (Structure.countsResolve_iff struct.shapes).mp hdescribes.counts _ (List.mem_map_of_mem hmember)

/-- The count of an array is a field of the same structure. -/
theorem exists_count (hsuccess : Success options spec schema profile final structs)
    (hstruct : struct ∈ profile.structures) (hmember : member ∈ struct.members) {count : String}
    (hcount : member.field.kind.sibling? = some count) :
    ∃ sibling ∈ struct.members, sibling.name = count ∧
      Structure.isCount sibling.field.kind = true := by
  obtain ⟨shape, hshape, hinteger⟩ := (hsuccess.inScope hstruct hmember).own count hcount
  rw [Structure.find?_shapes] at hshape
  obtain ⟨sibling, hsibling, rfl⟩ := Option.map_eq_some_iff.mp hshape
  exact ⟨sibling, List.mem_of_find?_eq_some hsibling, by simpa using List.find?_some hsibling, hinteger⟩

/-- No kind below a field of the arena takes its count from a field. -/
theorem sibling?_below (hsuccess : Success options spec schema profile final structs)
    (hbuild : (build spec schema).outcome { options } = (.ok profile, final)) {number : Nat}
    {field : Field} (hfield : final.arena[number]? = some field) {inner : Kind}
    (hinner : field.kind.Contains inner) : inner.sibling? = none := by
  obtain ⟨struct, hstruct, member, hmember, hown⟩ := (owned_build hbuild).2 number field hfield
  apply (hsuccess.inScope hstruct hmember).below
  rcases hown with hsame | hcontains
  · have hkind : member.field = field := congrArg Numbered.field hsame
    rw [Member.shape, hkind]
    exact hinner
  · exact hcontains.trans hinner

/-- The helpers are those of kinds in the arena, which have no arrays below them that take their count
from a field. -/
theorem exists_helper (hsuccess : Success options spec schema profile final structs)
    (hbuild : (build spec schema).outcome { options } = (.ok profile, final)) {identity : String}
    {code : Code} (hhelper : (identity, code) ∈ final.helpers) :
    ∃ kind, Arena.Occurs final.arena kind ∧ kind.identity? options = some identity ∧
      ∀ placeholder, kind.helperCode options placeholder = code := by
  obtain ⟨kind, hoccurs, hidentity, rfl⟩ := hsuccess.sound.helpers.sound identity code hhelper
  refine ⟨kind, hoccurs, hidentity, ?_⟩
  intro placeholder
  apply Kind.helperCode_placeholder
  intro inner hinner
  obtain ⟨field, hmem, hneeds⟩ := hoccurs
  obtain ⟨number, hfield⟩ := Array.mem_iff_getElem?.mp hmem
  rcases hneeds.cases with rfl | hcontains | ⟨type, rfl⟩
  · exact hsuccess.sibling?_below hbuild hfield hinner
  · exact hsuccess.sibling?_below hbuild hfield (hcontains.trans hinner)
  · exact absurd hinner Kind.not_contains_integer

/-- The accessor of a field gives what its expression evaluates to. -/
theorem eval_accessor (hsuccess : Success options spec schema profile final structs) {view : View}
    (hview : View.Of profile view) (hstruct : struct ∈ profile.structures)
    (hmember : member ∈ struct.members) (base : UInt64) :
    (member.field.kind.decodeExpression view.options .accessor).eval view.decoder
        (fun field ↦ (view.get? struct.name base field).map Value.asCount)
        (view.position struct member.name base) =
      view.get? struct.name base member.name := by
  rw [hsuccess.get?_eq_some hview hstruct hmember]
  cases hsibling : member.field.kind.sibling? with
  | none =>
    have hnested := (Kind.nestedSibling?_eq_none_iff member.field.kind).mpr
      (hsuccess.inScope hstruct hmember).below
    rw [Kind.decodeExpression_accessor view.options hsibling hnested,
      view.memberValue_of_sibling? struct hsibling]
    exact view.decoder.eval_decodeExpression rfl _ _ _
  | some count =>
    obtain ⟨element, hkind⟩ := Kind.eq_of_sibling? hsibling
    obtain ⟨sibling, hcount, rfl, hinteger⟩ := hsuccess.exists_count hstruct hmember hsibling
    have hnumber : view.siblingCount struct base sibling.name =
        (view.memberValue struct base sibling).asCount := by
      rw [View.siblingCount, hsuccess.member?_eq_some hstruct hcount,
        view.memberValue_of_sibling? struct (Structure.sibling?_of_isCount hinteger)]
    have hvalue : view.memberValue struct base member =
        view.decoder.array element (view.siblingCount struct base sibling.name)
          (view.position struct member.name base) := by
      simp only [View.memberValue, hkind]
    rw [hvalue, hnumber, hkind]
    simp only [Kind.decodeExpression, Kind.countExpression, DecodeExpression.eval, CountExpression.eval,
      hsuccess.get?_eq_some hview hstruct hcount, Option.map_some, Option.bind_some]
    exact view.decoder.loop_eq element _ (view.decoder.eval_decodeExpression rfl element _)
      (view.decoder.eval_size element) _

theorem exists_items (hsuccess : Success options spec schema profile final structs) {view : View}
    (hview : View.Of profile view) (hstruct : struct ∈ profile.structures)
    (hmember : member ∈ struct.members) {count : String} {element : Kind}
    (hkind : member.field.kind = .array (.sibling count) element) (base : UInt64) :
    ∃ value number items, view.get? struct.name base count = some value ∧
      value.number? = some number ∧ view.get? struct.name base member.name = some (.array items) ∧
      items.length =
        if 0 ≤ number ∧ number < 2 ^ 63 then min number.toNat view.options.arrayLimit else 0 := by
  have hcount : member.field.kind.sibling? = some count := by rw [hkind, Kind.sibling?]
  obtain ⟨sibling, hsibling, rfl, hinteger⟩ := hsuccess.exists_count hstruct hmember hcount
  let position := view.position struct sibling.name base
  obtain ⟨number, hnumber, hlow, hhigh, hasCount⟩ :=
    view.decoder.asCount_of_isCount hinteger position
  have hvalue := view.memberValue_of_sibling? struct (Structure.sibling?_of_isCount hinteger) base
  have hsiblingCount : view.siblingCount struct base sibling.name = number.bmod (2 ^ 64) := by
    unfold View.siblingCount
    rw [hsuccess.member?_eq_some hstruct hsibling]
    exact hasCount
  have hitems : view.memberValue struct base member =
      .array (view.decoder.run element (view.position struct member.name base)
        (view.decoder.clamp (number.bmod (2 ^ 64)))) := by
    rw [← hsiblingCount, ← Decoder.array_eq_run]
    simp only [View.memberValue, hkind]
  refine ⟨_, number, _, hsuccess.get?_eq_some hview hstruct hsibling base, hvalue ▸ hnumber,
    (hsuccess.get?_eq_some hview hstruct hmember base).trans (congrArg some hitems), ?_⟩
  rw [Decoder.run, List.length_map, List.length_range, Decoder.clamp_bmod _ hlow hhigh]
  rfl

theorem countsScoped (hsuccess : Success options spec schema profile final structs)
    (hbuild : (build spec schema).outcome { options } = (.ok profile, final)) :
    CountsScoped options profile final where
  owned number field count hfield hcount := by
    obtain ⟨struct, hstruct, member, hmember, hown⟩ := (owned_build hbuild).2 number field hfield
    rcases hown with hsame | hcontains
    · have hkind : member.field = field := congrArg Numbered.field hsame
      rw [← hkind] at hcount
      exact ⟨struct, hstruct, member, hmember, hsame, hsuccess.exists_count hstruct hmember hcount⟩
    · have hnone := (hsuccess.inScope hstruct hmember).below _ hcontains
      rw [hcount] at hnone
      cases hnone
  targets number target field inner hfield htarget hinner := by
    rcases (owned_build hbuild).1 number field hfield with
      ⟨-, hnone⟩ | ⟨target', inner', -, htarget', hinner', helement⟩
    · rw [htarget] at hnone
      cases hnone
    · obtain rfl : target = target' := Option.some.inj (htarget.symm.trans htarget')
      obtain rfl : inner = inner' := Option.some.inj (hinner.symm.trans hinner')
      exact hsuccess.sibling?_below hbuild hfield (.single helement)
  below _ _ _ hfield hinner := hsuccess.sibling?_below hbuild hfield hinner
  accessors struct _ member _ placeholder :=
    Kind.accessorCode_placeholder options struct.name member.name placeholder member.field.kind
  helpers _ _ hhelper := hsuccess.exists_helper hbuild hhelper
  evaluated _ hview _ hstruct member hmember :=
    ⟨Kind.decodeCode_eq_code _ _ member.field.kind, hsuccess.eval_accessor hview hstruct hmember⟩
  decoded _ hview _ hstruct _ hmember _ _ hkind base :=
    hsuccess.exists_items hview hstruct hmember hkind base

end Success

/-- Counts are in scope in every profile that is built, and the text that code has in place of a count
stands nowhere. If all structures can be read, a count that is out of scope is an error about a count. -/
theorem counts_in_scope (options : Options) (spec : Spec) (schema : Schema) :
    (∀ profile final, (build spec schema).run.run { options } = (.ok profile, final) →
      CountsScoped options profile final) ∧
    (Readable options spec schema → ∀ name ∈ chosen spec schema.sortedNames, ∀ shapes,
      HasShapes spec schema name shapes → ∀ shape ∈ shapes, ¬ Structure.InScope shapes shape →
      ∃ error after, Blames spec schema (chosen spec schema.sortedNames) error ∧
        (build spec schema).run.run { options } = (.error error, after)) := by
  constructor
  · intro profile final hbuild
    obtain ⟨structs, hsuccess⟩ := build_ok hbuild
    exact hsuccess.countsScoped hbuild
  · intro hreadable name hname shapes hshapes shape hshape hscope
    exact hreadable.exists_blames hname hshapes hshape hscope

def pointerField : String × Json :=
  ("items", .array [.number (.natural 4), .array [.string "Pointer",
    .object [("target", .string "Array"),
      ("target_args", .object [("target", .string "unsigned int"), ("count", .string "count")])]]])

def pointerSchema : Schema :=
  ⟨[Artifact.fileEntry [Artifact.countField, pointerField]]⟩

def pointerShapes : List FieldShape :=
  [⟨"count", 0, .integer ⟨.w32, false⟩⟩,
   ⟨"items", 4, .pointer (.array (.sibling "count") (.integer ⟨.w32, false⟩))⟩]

theorem chosen_pointerSchema : chosen Artifact.fileSpec pointerSchema.sortedNames = ["_File"] := by
  have hnames : pointerSchema.sortedNames = ["_File"] := List.mergeSort_of_pairwise (by decide +kernel)
  rw [hnames]
  decide +kernel

theorem hasShapes_pointerSchema : HasShapes Artifact.fileSpec pointerSchema "_File" pointerShapes :=
  ⟨_, 8, rfl, [Artifact.countField, pointerField], rfl, by decide +kernel, by decide +kernel⟩

theorem readable_pointerSchema : Readable {} Artifact.fileSpec pointerSchema := by
  refine ⟨rfl, ?_, ?_, ?_⟩ <;> rw [chosen_pointerSchema]
  · decide +kernel
  · decide +kernel
  · intro name hname
    obtain rfl := List.mem_singleton.mp hname
    exact ⟨pointerShapes, hasShapes_pointerSchema⟩

theorem offsets_fileStructure : Offsets.ofProfile ⟨"Profile", sorted [Artifact.fileStructure]⟩ =
    [(Code.offsetName "File" "count", 0), (Code.offsetName "File" "items", 4)] := by
  have hmembers : Artifact.fileStructure.sortedMembers = Artifact.fileStructure.members :=
    List.mergeSort_of_pairwise (by decide +kernel)
  rw [Offsets.ofProfile, offsets, sorted, List.mergeSort_singleton, List.flatMap_singleton, hmembers]
  rfl

/-- The array of a file has the one element that its count says, and the file whose array lies behind a
pointer is refused. -/
theorem counts_in_scope_file :
    (∃ final, (build Artifact.fileSpec Artifact.fileSchema).run.run { options := {} } =
        (.ok ⟨"Profile", sorted [Artifact.fileStructure]⟩, final) ∧
      ∃ items, (View.ofProfile {} ⟨"Profile", sorted [Artifact.fileStructure]⟩ View.twoCounts).get?
        "File" 0 "items" = some (.array items) ∧ items.length = 1) ∧
    ∃ struct field count fault after, (build Artifact.fileSpec pointerSchema).run.run { options := {} } =
      (.error (.countField struct field count fault), after) := by
  constructor
  · obtain ⟨final, hbuild, -⟩ := Artifact.outcome_fileSchema
    refine ⟨final, hbuild, ?_⟩
    have hscoped := (counts_in_scope {} Artifact.fileSpec Artifact.fileSchema).1 _ final hbuild
    have hstruct : Artifact.fileStructure ∈ sorted [Artifact.fileStructure] :=
      List.mem_mergeSort.mpr (List.mem_singleton_self _)
    obtain ⟨value, number, items, hvalue, hnumber, hitems, hlength⟩ := hscoped.decoded _
      (View.of_ofProfile {} _ View.twoCounts) _ hstruct _ (.tail _ (.head _)) _ _ rfl 0
    refine ⟨items, hitems, ?_⟩
    obtain ⟨structs, hsuccess⟩ := build_ok hbuild
    have hone := hsuccess.get?_eq_some (View.of_ofProfile {} _ View.twoCounts) hstruct (.head _) 0
    rw [View.ofProfile, offsets_fileStructure] at hvalue hone
    obtain rfl := Option.some.inj (hvalue.symm.trans hone)
    obtain rfl : 1 = number := Option.some.inj hnumber
    rw [hlength]
    rfl
  · have hscope : ¬ Structure.InScope pointerShapes
        ⟨"items", 4, .pointer (.array (.sibling "count") (.integer ⟨.w32, false⟩))⟩ := by
      intro hscope
      cases hscope.below _ (.single rfl)
    obtain ⟨error, after, ⟨name, -, shapes, -, shape, -, count, fault, -, rfl⟩, herror⟩ :=
      (counts_in_scope {} Artifact.fileSpec pointerSchema).2 readable_pointerSchema "_File"
        (chosen_pointerSchema ▸ List.mem_singleton_self _) pointerShapes hasShapes_pointerSchema _
        (.tail _ (.head _)) hscope
    exact ⟨name, shape.name, count, fault, after, herror⟩

end Profile

end BinaryLayout
