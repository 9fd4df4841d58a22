import BinaryLayout.Profile.Build
import BinaryLayout.Proofs.CycleSearch
import BinaryLayout.Proofs.HelperClosure

/-!
# What a Build Gives

A build succeeds exactly if the entries that it selects are well-formed, and then the structures of the
profile hold what their entries say. The numbers of fields depend on the order of the schema; the
shapes of fields, which leave the numbers out, do not.
-/

namespace BinaryLayout

namespace Context

/-- The second context comes from the first by installing the given kinds. -/
structure Grows (before : Context) (kinds : List Kind) (after : Context) : Prop where
  sound : ∀ {options : Options}, Sound options before → Sound options after
  occurs : ∀ needed, Arena.Occurs after.arena needed ↔
    Arena.Occurs before.arena needed ∨ ∃ kind ∈ kinds, kind.Needs needed

theorem Grows.refl (context : Context) : Grows context [] context where
  sound hsound := hsound
  occurs needed := by simp

theorem Grows.trans {before middle after : Context} {kinds kinds' : List Kind}
    (hfirst : Grows before kinds middle) (hsecond : Grows middle kinds' after) :
    Grows before (kinds ++ kinds') after where
  sound hsound := hsecond.sound (hfirst.sound hsound)
  occurs needed := by
    rw [hsecond.occurs, hfirst.occurs]
    simp only [List.mem_append, or_and_right, exists_or, or_assoc]

theorem Grows.report (event : Event) (context : Context) : Grows context [] (context.report event) where
  sound hsound := ⟨hsound.configured, hsound.arena, hsound.named, hsound.helpers⟩
  occurs needed := by simp [Context.report]

theorem Grows.warnAll (warnings : List Warning) (context : Context) :
    Grows context [] (context.warnAll warnings) where
  sound hsound := ⟨hsound.configured, hsound.arena, hsound.named, hsound.helpers⟩
  occurs needed := by simp [Context.warnAll]

theorem Grows.install {kind : Kind} (hkind : kind.IsNamed) (outside : Option String)
    (offset : UInt64) (context : Context) :
    Grows context [kind] (context.install outside kind offset).2 where
  sound hsound := hsound.install hkind outside offset
  occurs needed := by simp [occurs_install]

end Context

/-- A field of a structure without the numbers that it got. -/
structure FieldShape where
  name : String
  offset : UInt64
  kind : Kind
deriving DecidableEq

def Member.shape (member : Member) : FieldShape :=
  ⟨member.name, member.field.offset, member.field.kind⟩

def FieldShape.ofField? (field : String × Json) : Option FieldShape :=
  if Name.isIdentifier field.1 then
    match Entry.ofJson field.2 with
    | .ok found => some ⟨field.1, found.offset, found.description.kind⟩
    | .error _ => none
  else none

theorem FieldShape.isSome_ofField? {name : String} {entry : Json} :
    (ofField? (name, entry)).isSome ↔
      Name.isIdentifier name = true ∧ ∃ found, Entry.ofJson entry = .ok found := by
  unfold ofField?
  cases Name.isIdentifier name <;> cases Entry.ofJson entry <;> simp

namespace Structure

def kept (spec : Spec) (schemaName : String) (fields : List (String × Json)) :
    List (String × Json) :=
  fields.filter fun field ↦ spec.selectsField schemaName field.1

theorem kept_cons_of_passed {spec : Spec} {schemaName name : String}
    (hselected : spec.selectsField schemaName name = false) (entry : Json)
    (rest : List (String × Json)) :
    kept spec schemaName ((name, entry) :: rest) = kept spec schemaName rest := by
  simp [kept, hselected]

theorem kept_cons_of_selected {spec : Spec} {schemaName name : String}
    (hselected : spec.selectsField schemaName name = true) (entry : Json)
    (rest : List (String × Json)) :
    kept spec schemaName ((name, entry) :: rest) = (name, entry) :: kept spec schemaName rest := by
  simp [kept, hselected]

def shapes (struct : Structure) : List FieldShape :=
  struct.members.map Member.shape

theorem outcome_buildMembers_cons (spec : Spec) (schemaName name : String) (entry : Json)
    (rest : List (String × Json)) (context : Context) :
    (buildMembers spec schemaName ((name, entry) :: rest)).outcome context =
      if spec.selectsField schemaName name then
        if Name.isIdentifier name then
          match context.resolve spec entry with
          | (.error error, after) => (.error (.entry schemaName name error), after)
          | (.ok found, after) =>
            (((buildMembers spec schemaName rest).outcome after).1.map (⟨found, name⟩ :: ·),
              ((buildMembers spec schemaName rest).outcome after).2)
        else (.error (.invalidName name .field), context)
      else (buildMembers spec schemaName rest).outcome (context.report (.filtered schemaName name)) := by
  rw [buildMembers]
  cases spec.selectsField schemaName name with
  | false => simp
  | true =>
    cases Name.isIdentifier name with
    | false => simp
    | true =>
      rcases hresolve : context.resolve spec entry with ⟨error | found, after⟩
      · simp [hresolve]
      · simp [hresolve]

/-- A field is passed over, or its entry is installed. -/
theorem buildMembers_cons_ok {spec : Spec} {schemaName name : String} {entry : Json}
    {rest : List (String × Json)} {members : List Member} {context after : Context}
    (hsuccess : (buildMembers spec schemaName ((name, entry) :: rest)).outcome context =
      (.ok members, after)) :
    (spec.selectsField schemaName name = false ∧
      (buildMembers spec schemaName rest).outcome (context.report (.filtered schemaName name)) =
        (.ok members, after)) ∨
    (spec.selectsField schemaName name = true ∧ Name.isIdentifier name = true ∧
      ∃ found outside tail, Entry.ofJson entry = .ok found ∧
        (buildMembers spec schemaName rest).outcome
          (context.install outside found.description.kind found.offset).2 = (.ok tail, after) ∧
        members = ⟨(context.install outside found.description.kind found.offset).1, name⟩ :: tail) := by
  rw [outcome_buildMembers_cons] at hsuccess
  split at hsuccess
  · rename_i hselected
    split at hsuccess
    · rename_i hname
      rcases Context.resolve_cases spec entry context with
        ⟨error, -, hresolve⟩ | ⟨found, outside, hfound, hresolve⟩
      · rw [hresolve] at hsuccess
        nomatch hsuccess
      · rw [hresolve] at hsuccess
        refine .inr ⟨hselected, hname, found, outside, ?_⟩
        rcases hrest : (buildMembers spec schemaName rest).outcome
          (context.install outside found.description.kind found.offset).2 with ⟨error | tail, final⟩
        · simp [hrest, Except.map] at hsuccess
        · obtain ⟨rfl, rfl⟩ : _ = members ∧ final = after := by
            simpa [hrest, Except.map] using hsuccess
          exact ⟨tail, hfound, rfl, rfl⟩
    · nomatch hsuccess
  · rename_i hselected
    exact .inl ⟨by simpa using hselected, hsuccess⟩

/-- How the fields of a structure are built if nothing fails: a field is passed over, or its entry is
installed behind those before it. -/
inductive MembersBuilt (spec : Spec) (schemaName : String) :
    List (String × Json) → Context → List Member → Context → Prop
  | nil (context : Context) : MembersBuilt spec schemaName [] context [] context
  | passed {name : String} (entry : Json) {rest : List (String × Json)} {context after : Context}
      {members : List Member} (hselected : spec.selectsField schemaName name = false)
      (hrest : MembersBuilt spec schemaName rest (context.report (.filtered schemaName name)) members
        after) :
      MembersBuilt spec schemaName ((name, entry) :: rest) context members after
  | installed {name : String} {entry : Json} {rest : List (String × Json)} {context after : Context}
      {members : List Member} {found : Entry} (outside : Option String)
      (hselected : spec.selectsField schemaName name = true) (hname : Name.isIdentifier name = true)
      (hfound : Entry.ofJson entry = .ok found)
      (hrest : MembersBuilt spec schemaName rest
        (context.install outside found.description.kind found.offset).2 members after) :
      MembersBuilt spec schemaName ((name, entry) :: rest) context
        (⟨(context.install outside found.description.kind found.offset).1, name⟩ :: members) after

theorem membersBuilt_of_ok {spec : Spec} {schemaName : String} {fields : List (String × Json)} :
    ∀ {members : List Member} {context after : Context},
      (buildMembers spec schemaName fields).outcome context = (.ok members, after) →
      MembersBuilt spec schemaName fields context members after := by
  induction fields with
  | nil =>
    intro members context after hsuccess
    obtain ⟨rfl, rfl⟩ : [] = members ∧ context = after := by simpa [buildMembers] using hsuccess
    exact .nil context
  | cons field rest ih =>
    obtain ⟨name, entry⟩ := field
    intro members context after hsuccess
    rcases buildMembers_cons_ok hsuccess with
      ⟨hselected, hrest⟩ | ⟨hselected, hname, found, outside, tail, hfound, hrest, rfl⟩
    · exact .passed entry hselected (ih hrest)
    · exact .installed outside hselected hname hfound (ih hrest)

/-- What the fields of a structure are after a success. -/
theorem MembersBuilt.shapes {spec : Spec} {schemaName : String} {fields : List (String × Json)}
    {members : List Member} {context after : Context}
    (hbuilt : MembersBuilt spec schemaName fields context members after) :
    (∀ field ∈ kept spec schemaName fields, (FieldShape.ofField? field).isSome) ∧
      members.map Member.shape = (kept spec schemaName fields).filterMap FieldShape.ofField? ∧
      context.Grows (members.map (·.field.kind)) after := by
  induction hbuilt with
  | nil context => exact ⟨by simp [kept], rfl, .refl _⟩
  | @passed name entry rest context after members hselected _ ih =>
    obtain ⟨hall, hshapes, hgrows⟩ := ih
    rw [kept_cons_of_passed hselected]
    exact ⟨hall, hshapes, (Context.Grows.report _ _).trans hgrows⟩
  | @installed name entry rest context after members found outside hselected hname hfound _ ih =>
    obtain ⟨hall, hshapes, hgrows⟩ := ih
    have hentry : FieldShape.ofField? (name, entry) =
        some ⟨name, found.offset, found.description.kind⟩ := by
      simp [FieldShape.ofField?, hname, hfound]
    obtain ⟨hkind, hoffset⟩ :=
      Context.install_field outside found.description.kind found.offset context
    have hinstall := Context.Grows.install (Entry.ofJson_isNamed hfound) outside found.offset context
    rw [kept_cons_of_selected hselected]
    refine ⟨by simpa [hentry] using hall, ?_, ?_⟩
    · simp [hentry, hshapes, Member.shape, hkind, hoffset]
    · simpa [hkind] using hinstall.trans hgrows

/-- Fields that are all usable are built. -/
theorem exists_buildMembers (spec : Spec) (schemaName : String) (fields : List (String × Json)) :
    ∀ context : Context,
      (∀ field ∈ kept spec schemaName fields, (FieldShape.ofField? field).isSome) →
      ∃ members after,
        (buildMembers spec schemaName fields).outcome context = (.ok members, after) := by
  induction fields with
  | nil => exact fun context _ ↦ ⟨[], context, rfl⟩
  | cons field rest ih =>
    obtain ⟨name, entry⟩ := field
    intro context hall
    rw [outcome_buildMembers_cons]
    cases hselected : spec.selectsField schemaName name with
    | false =>
      rw [kept_cons_of_passed hselected] at hall
      exact ih _ hall
    | true =>
      rw [kept_cons_of_selected hselected] at hall
      obtain ⟨husable, hrest⟩ := List.forall_mem_cons.mp hall
      obtain ⟨hname, found, hfound⟩ := FieldShape.isSome_ofField?.mp husable
      rcases Context.resolve_cases spec entry context with
        ⟨error, herror, -⟩ | ⟨found', outside, -, hresolve⟩
      · rw [hfound] at herror
        nomatch herror
      · obtain ⟨tail, after, htail⟩ :=
          ih (context.install outside found'.description.kind found'.offset).2 hrest
        simp [hname, hresolve, htail, Except.map]

/-- Whether a value can be the count of an array. -/
def isCount : Kind → Bool
  | .integer _ | .bitField _ => true
  | _ => false

/-- The count of every array among the fields is a field of a usable kind, and only an array that is
itself a field has such a count. -/
def CountsResolve (shapes : List FieldShape) : Prop :=
  ∀ shape ∈ shapes, shape.kind.nestedSibling? = none ∧
    ∀ count element, shape.kind = .array (.sibling count) element →
      ∃ sibling, shapes.find? (·.name == count) = some sibling ∧ isCount sibling.kind

theorem countError?_eq_none_iff (struct : Structure) (member : Member) :
    struct.countError? member = none ↔
      member.field.kind.nestedSibling? = none ∧
        ∀ count element, member.field.kind = .array (.sibling count) element →
          ∃ sibling, struct.member? count = some sibling ∧ isCount sibling.field.kind := by
  unfold countError?
  simp only [Option.or_eq_none_iff, Option.map_eq_none_iff]
  rw [and_comm]
  refine and_congr_right fun _ ↦ ?_
  split
  · rename_i count element hkind
    split
    · rename_i hnone
      simp [hkind, hnone]
    · rename_i sibling hsibling
      split <;> simp_all [isCount]
  · rename_i hother
    simp only [true_iff]
    intro count element hkind
    exact absurd hkind (hother count element)

theorem find?_shapes (struct : Structure) (count : String) :
    struct.shapes.find? (·.name == count) = (struct.member? count).map Member.shape := by
  simp [shapes, member?, List.find?_map, Function.comp_def, Member.shape]

theorem countErrors_eq_none_iff (struct : Structure) :
    struct.members.findSome? struct.countError? = none ↔ CountsResolve struct.shapes := by
  simp only [List.findSome?_eq_none_iff, countError?_eq_none_iff, CountsResolve, find?_shapes]
  simp [shapes, Member.shape]

/-- The entry of a structure gives this size and, of the fields that are kept, these shapes. -/
structure Describes (spec : Spec) (schemaName : String) (entry : Json) (size : UInt64)
    (shapes : List FieldShape) : Prop where
  parts : ∃ fields, entryParts schemaName entry = .ok (size, fields) ∧
    (∀ field ∈ kept spec schemaName fields, (FieldShape.ofField? field).isSome) ∧
    shapes = (kept spec schemaName fields).filterMap FieldShape.ofField?
  counts : CountsResolve shapes

/-- A structure that is built has the size that is written for it and the fields that were built, and
none of its counts is at fault. -/
theorem exists_membersBuilt {spec : Spec} {schemaName : String} {entry : Json} {struct : Structure}
    {context after : Context}
    (hsuccess : (build spec schemaName entry).outcome context = (.ok struct, after)) :
    ∃ size fields members, entryParts schemaName entry = .ok (size, fields) ∧
      MembersBuilt spec schemaName fields context members after ∧
      struct = ⟨Name.canonical schemaName, schemaName, size, members⟩ ∧
      struct.members.findSome? struct.countError? = none := by
  obtain ⟨⟨size, fields⟩, middle, hfirst, hrest⟩ := Attempt.exists_of_outcome_bind hsuccess
  obtain ⟨hparts, rfl⟩ : entryParts schemaName entry = .ok (size, fields) ∧ context = middle := by
    simpa using hfirst
  obtain ⟨members, final, hmembers, hlast⟩ := Attempt.exists_of_outcome_bind hrest
  simp only at hlast
  split at hlast
  · cases hlast
  · rename_i hcounts
    obtain ⟨rfl, rfl⟩ : _ = struct ∧ final = after := by simpa using hlast
    exact ⟨size, fields, members, hparts, membersBuilt_of_ok hmembers, rfl, hcounts⟩

theorem build_ok {spec : Spec} {schemaName : String} {entry : Json} {struct : Structure}
    {context after : Context}
    (hsuccess : (build spec schemaName entry).outcome context = (.ok struct, after)) :
    struct.name = Name.canonical schemaName ∧ struct.schemaName = schemaName ∧
      Describes spec schemaName entry struct.size struct.shapes ∧
      context.Grows (struct.members.map (·.field.kind)) after := by
  obtain ⟨size, fields, members, hparts, hbuilt, rfl, hcounts⟩ := exists_membersBuilt hsuccess
  obtain ⟨hall, hshapes, hgrows⟩ := hbuilt.shapes
  exact ⟨rfl, rfl, ⟨⟨fields, hparts, hall, hshapes⟩, (countErrors_eq_none_iff _).mp hcounts⟩, hgrows⟩

theorem exists_build {spec : Spec} {schemaName : String} {entry : Json} {size : UInt64}
    {shapes : List FieldShape} (hdescribes : Describes spec schemaName entry size shapes)
    (context : Context) :
    ∃ struct after, (build spec schemaName entry).outcome context = (.ok struct, after) := by
  obtain ⟨fields, hparts, hall, rfl⟩ := hdescribes.parts
  obtain ⟨members, after, hmembers⟩ := exists_buildMembers spec schemaName fields context hall
  obtain ⟨-, hshapes, -⟩ := (membersBuilt_of_ok hmembers).shapes
  let struct : Structure := ⟨Name.canonical schemaName, schemaName, size, members⟩
  have hcounts : members.findSome? struct.countError? = none := by
    refine (countErrors_eq_none_iff struct).mpr ?_
    rw [Structure.shapes, hshapes]
    exact hdescribes.counts
  refine ⟨struct, after, ?_⟩
  simp only [build, Attempt.outcome_bind, Attempt.outcome_except, hparts, hmembers]
  rw [hcounts]
  rfl

end Structure

namespace Profile

/-! ## The structures of a profile -/

def isStructName (profile name : String) : Bool :=
  Name.isIdentifier name && !reservedNames.contains name && name != profile

def chosen (spec : Spec) (names : List String) : List String :=
  names.filter spec.selectsStruct

theorem chosen_cons_of_passed {spec : Spec} {name : String}
    (hselected : spec.selectsStruct name = false) (rest : List String) :
    chosen spec (name :: rest) = chosen spec rest := by
  simp [chosen, hselected]

theorem chosen_cons_of_selected {spec : Spec} {name : String}
    (hselected : spec.selectsStruct name = true) (rest : List String) :
    chosen spec (name :: rest) = name :: chosen spec rest := by
  simp [chosen, hselected]

structure Built (spec : Spec) (schema : Schema) (struct : Structure) : Prop where
  name : struct.name = Name.canonical struct.schemaName
  described : ∃ entry, schema.entry? struct.schemaName = some entry ∧
    Structure.Describes spec struct.schemaName entry struct.size struct.shapes

theorem outcome_buildStructures_cons {spec : Spec} {schema : Schema} {schemaName : String}
    {entry : Json} (hentry : schema.entry? schemaName = some entry) (profile : String)
    (taken : List (String × String)) (rest : List String) (context : Context) :
    (buildStructures spec schema profile taken (schemaName :: rest)).outcome context =
      if spec.selectsStruct schemaName then
        if isStructName profile (Name.canonical schemaName) then
          match taken.lookup (Name.canonical schemaName) with
          | some first => (.error (.nameCollision (Name.canonical schemaName) first schemaName), context)
          | none =>
            (do
              let struct ← Structure.build spec schemaName entry
              return struct :: (← buildStructures spec schema profile
                ((Name.canonical schemaName, schemaName) :: taken) rest) : Run _).outcome context
        else (.error (.invalidName schemaName .struct), context)
      else (buildStructures spec schema profile taken rest).outcome context := by
  have husable : isStructName profile (Name.canonical schemaName) =
      !(!Name.isIdentifier (Name.canonical schemaName) ||
        reservedNames.contains (Name.canonical schemaName) ||
        Name.canonical schemaName == profile) := by
    simp [isStructName, bne]
  rw [buildStructures, hentry, husable]
  dsimp only
  cases spec.selectsStruct schemaName with
  | false => rfl
  | true =>
    cases !Name.isIdentifier (Name.canonical schemaName) ||
      reservedNames.contains (Name.canonical schemaName) || Name.canonical schemaName == profile with
    | true => rfl
    | false => cases taken.lookup (Name.canonical schemaName) <;> rfl

/-- A structure is passed over, or its name is free and it is built. -/
theorem buildStructures_cons_ok {spec : Spec} {schema : Schema} {profile schemaName : String}
    {taken : List (String × String)} {rest : List String} {structs : List Structure}
    {context after : Context} (hcontains : schema.contains schemaName = true)
    (hsuccess : (buildStructures spec schema profile taken (schemaName :: rest)).outcome context =
      (.ok structs, after)) :
    (spec.selectsStruct schemaName = false ∧
      (buildStructures spec schema profile taken rest).outcome context = (.ok structs, after)) ∨
    (spec.selectsStruct schemaName = true ∧
      isStructName profile (Name.canonical schemaName) = true ∧
      taken.lookup (Name.canonical schemaName) = none ∧
      ∃ entry struct tail middle, schema.entry? schemaName = some entry ∧
        (Structure.build spec schemaName entry).outcome context = (.ok struct, middle) ∧
        (buildStructures spec schema profile ((Name.canonical schemaName, schemaName) :: taken)
          rest).outcome middle = (.ok tail, after) ∧
        structs = struct :: tail) := by
  obtain ⟨entry, hentry⟩ := Option.isSome_iff_exists.mp hcontains
  rw [outcome_buildStructures_cons hentry] at hsuccess
  split at hsuccess
  · rename_i hselected
    split at hsuccess
    · rename_i husable
      split at hsuccess
      · nomatch hsuccess
      · rename_i hfree
        obtain ⟨struct, middle, hstruct, hrest⟩ := Attempt.exists_of_outcome_bind hsuccess
        obtain ⟨tail, final, htail, hlast⟩ := Attempt.exists_of_outcome_bind hrest
        obtain ⟨rfl, rfl⟩ : struct :: tail = structs ∧ final = after := by simpa using hlast
        exact .inr ⟨hselected, husable, hfree, entry, struct, tail, middle, hentry, hstruct, htail, rfl⟩
    · nomatch hsuccess
  · rename_i hselected
    exact .inl ⟨by simpa using hselected, hsuccess⟩

/-- How structures are built if nothing fails: a name is passed over, or it is usable and free and its
structure is built behind those before it. -/
inductive StructuresBuilt (spec : Spec) (schema : Schema) (profile : String) :
    List (String × String) → List String → Context → List Structure → Context → Prop
  | nil (taken : List (String × String)) (context : Context) :
      StructuresBuilt spec schema profile taken [] context [] context
  | passed {schemaName : String} {taken : List (String × String)} {rest : List String}
      {context after : Context} {structs : List Structure}
      (hselected : spec.selectsStruct schemaName = false)
      (hrest : StructuresBuilt spec schema profile taken rest context structs after) :
      StructuresBuilt spec schema profile taken (schemaName :: rest) context structs after
  | built {schemaName : String} {taken : List (String × String)} {rest : List String} {entry : Json}
      {struct : Structure} {context middle after : Context} {structs : List Structure}
      (hselected : spec.selectsStruct schemaName = true)
      (husable : isStructName profile (Name.canonical schemaName) = true)
      (hfree : taken.lookup (Name.canonical schemaName) = none)
      (hentry : schema.entry? schemaName = some entry)
      (hstruct : (Structure.build spec schemaName entry).outcome context = (.ok struct, middle))
      (hrest : StructuresBuilt spec schema profile ((Name.canonical schemaName, schemaName) :: taken)
        rest middle structs after) :
      StructuresBuilt spec schema profile taken (schemaName :: rest) context (struct :: structs) after

theorem structuresBuilt_of_ok {spec : Spec} {schema : Schema} {profile : String} {names : List String}
    (hnames : ∀ name ∈ names, schema.contains name = true) :
    ∀ {taken : List (String × String)} {structs : List Structure} {context after : Context},
      (buildStructures spec schema profile taken names).outcome context = (.ok structs, after) →
      StructuresBuilt spec schema profile taken names context structs after := by
  induction names with
  | nil =>
    intro taken structs context after hsuccess
    obtain ⟨rfl, rfl⟩ : [] = structs ∧ context = after := by simpa [buildStructures] using hsuccess
    exact .nil taken context
  | cons schemaName rest ih =>
    intro taken structs context after hsuccess
    obtain ⟨hcontains, hrest⟩ := List.forall_mem_cons.mp hnames
    rcases buildStructures_cons_ok hcontains hsuccess with
      ⟨hselected, htail⟩ |
      ⟨hselected, husable, hfree, entry, struct, tail, middle, hentry, hstruct, htail, rfl⟩
    · exact .passed hselected (ih hrest htail)
    · exact .built hselected husable hfree hentry hstruct (ih hrest htail)

/-- What the structures are after a success. -/
theorem StructuresBuilt.described {spec : Spec} {schema : Schema} {profile : String}
    {names : List String} {taken : List (String × String)} {structs : List Structure}
    {context after : Context}
    (hbuilt : StructuresBuilt spec schema profile taken names context structs after) :
    structs.map Structure.schemaName = chosen spec names ∧
      (∀ struct ∈ structs, Built spec schema struct) ∧
      (∀ name ∈ chosen spec names, isStructName profile (Name.canonical name) = true ∧
        taken.lookup (Name.canonical name) = none) ∧
      ((chosen spec names).map Name.canonical).Nodup ∧
      context.Grows (structs.flatMap fun struct ↦ struct.members.map (·.field.kind)) after := by
  induction hbuilt with
  | nil taken context => exact ⟨rfl, by simp, by simp [chosen], by simp [chosen], .refl _⟩
  | @passed schemaName taken rest context after structs hselected _ ih =>
    rwa [chosen_cons_of_passed hselected]
  | @built schemaName taken rest entry struct context middle after structs hselected husable hfree
      hentry hstruct _ ih =>
    obtain ⟨hname, rfl, hdescribes, hgrows⟩ := Structure.build_ok hstruct
    have hbuilt : Built spec schema struct := ⟨hname, entry, hentry, hdescribes⟩
    obtain ⟨horder, hall, husables, hnodup, hgrows'⟩ := ih
    rw [chosen_cons_of_selected hselected]
    refine ⟨by simp [horder], List.forall_mem_cons.mpr ⟨hbuilt, hall⟩,
      List.forall_mem_cons.mpr ⟨⟨husable, hfree⟩, ?_⟩, List.nodup_cons.mpr ⟨?_, hnodup⟩,
      hgrows.trans hgrows'⟩
    · intro name hname
      exact ⟨(husables name hname).1, (Ordered.lookup_cons_eq_none.mp (husables name hname).2).2⟩
    · -- The later names were checked with this one taken, so none of them is the same.
      intro hmem
      obtain ⟨name, hname, hsame⟩ := List.mem_map.mp hmem
      exact (Ordered.lookup_cons_eq_none.mp (husables name hname).2).1 hsame

/-- Other names stay free when a name is taken. -/
theorem free_after {profile schemaName : String} {taken : List (String × String)} {names : List String}
    (hother : Name.canonical schemaName ∉ names.map Name.canonical)
    (hfree : ∀ name ∈ names, isStructName profile (Name.canonical name) = true ∧
      taken.lookup (Name.canonical name) = none) :
    ∀ name ∈ names, isStructName profile (Name.canonical name) = true ∧
      ((Name.canonical schemaName, schemaName) :: taken).lookup (Name.canonical name) = none := by
  intro name hname
  obtain ⟨husable, hlookup⟩ := hfree name hname
  have hdifferent : Name.canonical name ≠ Name.canonical schemaName :=
    fun hsame ↦ hother (List.mem_map.mpr ⟨name, hname, hsame⟩)
  exact ⟨husable, Ordered.lookup_cons_eq_none.mpr ⟨hdifferent, hlookup⟩⟩

/-- Structures with usable and different names are all built, or one of them is refused and the run ends
with its error. -/
theorem buildStructures_cases {spec : Spec} {schema : Schema} {profile : String} (names : List String)
    (hnames : ∀ name ∈ names, schema.contains name = true)
    (hnodup : ((chosen spec names).map Name.canonical).Nodup) :
    ∀ (taken : List (String × String)) (context : Context),
      (∀ name ∈ chosen spec names, isStructName profile (Name.canonical name) = true ∧
        taken.lookup (Name.canonical name) = none) →
      (∃ structs after,
        (buildStructures spec schema profile taken names).outcome context = (.ok structs, after)) ∨
      ∃ name ∈ chosen spec names, ∃ entry before error after, schema.entry? name = some entry ∧
        (Structure.build spec name entry).outcome before = (.error error, after) ∧
        (buildStructures spec schema profile taken names).outcome context = (.error error, after) := by
  induction names with
  | nil => exact fun taken context _ ↦ .inl ⟨[], context, rfl⟩
  | cons schemaName rest ih =>
    intro taken context husables
    obtain ⟨hcontains, hrest⟩ := List.forall_mem_cons.mp hnames
    obtain ⟨entry, hentry⟩ := Option.isSome_iff_exists.mp hcontains
    rw [outcome_buildStructures_cons hentry]
    cases hselected : spec.selectsStruct schemaName with
    | false =>
      rw [chosen_cons_of_passed hselected] at hnodup husables ⊢
      exact ih hrest hnodup taken context husables
    | true =>
      rw [chosen_cons_of_selected hselected] at hnodup husables ⊢
      obtain ⟨hother, hnodup⟩ := List.nodup_cons.mp hnodup
      obtain ⟨⟨husable, hfree⟩, husables⟩ := List.forall_mem_cons.mp husables
      rw [if_pos rfl, if_pos husable, hfree]
      rcases hstruct : (Structure.build spec schemaName entry).outcome context with
        ⟨error | struct, middle⟩
      · refine .inr ⟨schemaName, List.mem_cons_self, entry, context, error, middle, hentry, hstruct, ?_⟩
        simp [hstruct]
      · rcases ih hrest hnodup _ middle (free_after hother husables) with
          ⟨tail, after, htail⟩ | ⟨name, hname, entry', before, error, after, hentry', hrefused, herror⟩
        · exact .inl ⟨struct :: tail, after, by simp [hstruct, htail, Except.map]⟩
        · refine .inr ⟨name, List.mem_cons_of_mem _ hname, entry', before, error, after, hentry',
            hrefused, ?_⟩
          simp [hstruct, herror, Except.map]

/-- Structures with usable and different names are built if the schema describes them. -/
theorem exists_buildStructures {spec : Spec} {schema : Schema} {profile : String}
    (names : List String) (hnames : ∀ name ∈ names, schema.contains name = true)
    (hdescribes : ∀ name ∈ chosen spec names, ∃ entry size shapes, schema.entry? name = some entry ∧
      Structure.Describes spec name entry size shapes)
    (hnodup : ((chosen spec names).map Name.canonical).Nodup) (taken : List (String × String))
    (context : Context)
    (husables : ∀ name ∈ chosen spec names, isStructName profile (Name.canonical name) = true ∧
      taken.lookup (Name.canonical name) = none) :
    ∃ structs after,
      (buildStructures spec schema profile taken names).outcome context = (.ok structs, after) := by
  rcases buildStructures_cases names hnames hnodup taken context husables with
    hbuilt | ⟨name, hname, entry, before, error, after, hentry, hrefused, -⟩
  · exact hbuilt
  · obtain ⟨entry', size, shapes, hentry', hdescribed⟩ := hdescribes name hname
    obtain rfl : entry = entry' := Option.some.inj (hentry.symm.trans hentry')
    obtain ⟨struct, middle, hstruct⟩ := Structure.exists_build hdescribed before
    cases hrefused.symm.trans hstruct

/-! ## Whole builds -/

theorem offsetCollision?_eq_none_iff (owners : List (String × String)) :
    ∀ seen : List (String × String), offsetCollision? seen owners = none ↔
      (owners.map Prod.fst).Nodup ∧ ∀ owner ∈ owners, seen.lookup owner.1 = none := by
  induction owners with
  | nil => simp [offsetCollision?]
  | cons owner rest ih =>
    obtain ⟨name, owner⟩ := owner
    intro seen
    rw [offsetCollision?]
    cases hseen : seen.lookup name with
    | some first =>
      refine iff_of_false (by simp) fun hfree ↦ ?_
      have hnone := hfree.2 _ List.mem_cons_self
      rw [hseen] at hnone
      nomatch hnone
    | none =>
      rw [ih]
      simp only [Ordered.lookup_cons_eq_none, List.map_cons, List.nodup_cons, List.forall_mem_cons,
        hseen, true_and, List.mem_map]
      constructor
      · rintro ⟨hnodup, hfree⟩
        refine ⟨⟨?_, hnodup⟩, fun entry hentry ↦ (hfree entry hentry).2⟩
        rintro ⟨entry, hentry, hsame⟩
        exact (hfree entry hentry).1 hsame
      · rintro ⟨⟨hother, hnodup⟩, hfree⟩
        exact ⟨hnodup, fun entry hentry ↦
          ⟨fun hsame ↦ hother ⟨entry, hentry, hsame⟩, hfree entry hentry⟩⟩

def sorted (structs : List Structure) : List Structure :=
  structs.mergeSort fun first second ↦ first.name ≤ second.name

structure Selects (options : Options) (spec : Spec) (schema : Schema) : Prop where
  profile : isUsableName options.profile = true
  usable : ∀ name ∈ chosen spec schema.sortedNames,
    isStructName options.profile (Name.canonical name) = true
  distinct : ((chosen spec schema.sortedNames).map Name.canonical).Nodup
  described : ∀ name ∈ chosen spec schema.sortedNames, ∃ entry size shapes,
    schema.entry? name = some entry ∧ Structure.Describes spec name entry size shapes

structure Compatible (structs : List Structure) : Prop where
  offsets : ((offsetOwners (sorted structs)).map Prod.fst).Nodup
  acyclic : Cycle.find? (sorted structs) = none

theorem mem_sortedNames {schema : Schema} {name : String} :
    name ∈ schema.sortedNames ↔ schema.contains name = true := by
  simp [Schema.sortedNames, Schema.contains, Schema.entry?]

theorem contains_sortedNames (schema : Schema) :
    ∀ name ∈ schema.sortedNames, schema.contains name = true :=
  fun _ ↦ mem_sortedNames.mp

def start (options : Options) (spec : Spec) (schema : Schema) : Context :=
  Context.warnAll
    ((spec.structs.filter fun selected ↦ !schema.contains selected).map .structureMissing)
    { options }

theorem outcome_build (options : Options) (spec : Spec) (schema : Schema) :
    (build spec schema).outcome { options } =
      if isUsableName options.profile then
        match (buildStructures spec schema options.profile [] schema.sortedNames).outcome
          (start options spec schema) with
        | (.error error, after) => (.error error, after)
        | (.ok built, after) =>
          match offsetCollision? [] (offsetOwners (sorted built)) with
          | some error => (.error error, after)
          | none =>
            match Cycle.find? (sorted built) with
            | some path => (.error (.structureCycle path), after)
            | none => (.ok ⟨options.profile, sorted built⟩, after)
      else (.error (.invalidName options.profile .profile), { options }) := by
  unfold build
  cases husable : isUsableName options.profile with
  | false => simp [husable]
  | true =>
    simp only [Attempt.outcome_bind, Attempt.outcome_get, husable, Bool.not_true, Bool.false_eq_true,
      if_false, if_true, Attempt.outcome_modify]
    rw [start]
    rcases (buildStructures spec schema options.profile [] schema.sortedNames).outcome
      (Context.warnAll _ _) with ⟨error | built, after⟩
    · rfl
    · simp only [sorted]
      generalize built.mergeSort (fun first second ↦ decide (first.name ≤ second.name)) = structs
      cases offsetCollision? [] (offsetOwners structs) with
      | some error => rfl
      | none => cases Cycle.find? structs <;> rfl

/-- What a successful build has checked, and what it gives. -/
structure Success (options : Options) (spec : Spec) (schema : Schema) (profile : Profile)
    (after : Context) (structs : List Structure) : Prop where
  selects : Selects options spec schema
  names : structs.map Structure.schemaName = chosen spec schema.sortedNames
  built : ∀ struct ∈ structs, Built spec schema struct
  compatible : Compatible structs
  profile : profile = ⟨options.profile, sorted structs⟩
  context : Context.Grows { options }
    (structs.flatMap fun struct ↦ struct.members.map (·.field.kind)) after

theorem Success.sound {options : Options} {spec : Spec} {schema : Schema} {profile : Profile}
    {after : Context} {structs : List Structure}
    (hsuccess : Success options spec schema profile after structs) : Context.Sound options after :=
  hsuccess.context.sound (Context.sound_start options)

/-- A build that succeeds has built the structures and found them compatible. -/
theorem exists_structuresBuilt {options : Options} {spec : Spec} {schema : Schema}
    {profile : Profile} {after : Context}
    (hsuccess : (build spec schema).outcome { options } = (.ok profile, after)) :
    ∃ structs, StructuresBuilt spec schema options.profile [] schema.sortedNames
        (start options spec schema) structs after ∧
      isUsableName options.profile = true ∧ Compatible structs ∧
      profile = ⟨options.profile, sorted structs⟩ := by
  rw [outcome_build] at hsuccess
  split at hsuccess
  · rename_i husable
    split at hsuccess
    · nomatch hsuccess
    · rename_i structs final hbuilt
      split at hsuccess
      · nomatch hsuccess
      · rename_i hoffsets
        split at hsuccess
        · nomatch hsuccess
        · rename_i hacyclic
          obtain ⟨rfl, rfl⟩ : _ = profile ∧ final = after := by simpa using hsuccess
          exact ⟨structs, structuresBuilt_of_ok (contains_sortedNames schema) hbuilt, husable,
            ⟨((offsetCollision?_eq_none_iff _ _).mp hoffsets).1, hacyclic⟩, rfl⟩
  · nomatch hsuccess

theorem build_ok {options : Options} {spec : Spec} {schema : Schema} {profile : Profile}
    {after : Context} (hsuccess : (build spec schema).outcome { options } = (.ok profile, after)) :
    ∃ structs, Success options spec schema profile after structs := by
  obtain ⟨structs, hbuilt, husable, hcompatible, hprofile⟩ := exists_structuresBuilt hsuccess
  obtain ⟨horder, hall, husables, hdistinct, hgrows⟩ := hbuilt.described
  refine ⟨structs, ⟨husable, fun name hname ↦ (husables name hname).1, hdistinct, ?_⟩,
    horder, hall, hcompatible, hprofile, (Context.Grows.warnAll _ _).trans hgrows⟩
  intro name hname
  rw [← horder] at hname
  obtain ⟨struct, hstruct, rfl⟩ := List.mem_map.mp hname
  obtain ⟨entry, hentry, hdescribes⟩ := (hall struct hstruct).described
  exact ⟨entry, struct.size, struct.shapes, hentry, hdescribes⟩

theorem outcome_build_of_compatible {options : Options} {spec : Spec} {schema : Schema}
    {structs : List Structure} {after : Context} (husable : isUsableName options.profile = true)
    (hbuilt : (buildStructures spec schema options.profile [] schema.sortedNames).outcome
      (start options spec schema) = (.ok structs, after))
    (hcompatible : Compatible structs) :
    (build spec schema).outcome { options } = (.ok ⟨options.profile, sorted structs⟩, after) := by
  have hcollision : offsetCollision? [] (offsetOwners (sorted structs)) = none :=
    (offsetCollision?_eq_none_iff _ _).mpr ⟨hcompatible.offsets, fun _ _ ↦ rfl⟩
  rw [outcome_build, if_pos husable, hbuilt]
  simp only [hcollision, hcompatible.acyclic]

/-- A build by the names of the schema in their order. -/
theorem outcome_build_of_names {options : Options} {spec : Spec} {schema : Schema}
    {structs : List Structure} {names : List String} (husable : isUsableName options.profile = true)
    (hnames : schema.sortedNames = names)
    (hstructs : ((buildStructures spec schema options.profile [] names).outcome
      (start options spec schema)).1.toOption = some structs)
    (hcompatible : Compatible structs) :
    (build spec schema).outcome { options } = (.ok ⟨options.profile, sorted structs⟩,
      ((buildStructures spec schema options.profile [] names).outcome
        (start options spec schema)).2) := by
  subst hnames
  rcases hbuilt : (buildStructures spec schema options.profile [] schema.sortedNames).outcome
    (start options spec schema) with ⟨error | found, after⟩
  · simp [hbuilt, Except.toOption] at hstructs
  · obtain rfl : found = structs := by simpa [hbuilt, Except.toOption] using hstructs
    exact outcome_build_of_compatible husable hbuilt hcompatible

theorem compatible_nil : Compatible [] where
  offsets := by simp [sorted, offsetOwners]
  acyclic := by simp [sorted, Cycle.find?, Cycle.starts, Cycle.edges, pure, Except.pure]

/-- A structure that does not contain itself can stand alone. -/
theorem compatible_singleton {struct : Structure}
    (hoffsets : ((offsetOwners [struct]).map Prod.fst).Nodup)
    (htargets : struct.name ∉ struct.members.filterMap Cycle.contained?) : Compatible [struct] where
  offsets := by rwa [sorted, List.mergeSort_singleton]
  acyclic := by
    rw [sorted, List.mergeSort_singleton]
    apply Cycle.find?_eq_none_of_rank (by simp) fun _ ↦ 0
    rintro outer inner ⟨hinner, other, hother, -, member, hmember, hkind⟩
    obtain rfl := List.mem_singleton.mp hinner
    obtain rfl := List.mem_singleton.mp hother
    exact absurd (List.mem_filterMap.mpr ⟨member, hmember, Cycle.contained?_eq_some.mpr hkind⟩) htargets

/-- On a schema without structures, a build depends on the name of the profile alone. -/
theorem outcome_build_of_empty {options : Options} (husable : isUsableName options.profile = true)
    (spec : Spec) :
    (build spec ⟨[]⟩).outcome { options } = (.ok ⟨options.profile, []⟩, start options spec ⟨[]⟩) := by
  have hnames : Schema.sortedNames ⟨[]⟩ = [] := List.mergeSort_nil
  have hbuilt : (buildStructures spec ⟨[]⟩ options.profile [] (Schema.sortedNames ⟨[]⟩)).outcome
      (start options spec ⟨[]⟩) = (.ok [], start options spec ⟨[]⟩) := by
    rw [hnames]
    rfl
  rw [outcome_build_of_compatible husable hbuilt compatible_nil, sorted, List.mergeSort_nil]

theorem exists_build {options : Options} {spec : Spec} {schema : Schema}
    (hselects : Selects options spec schema)
    (hcompatible : ∀ structs, structs.map Structure.schemaName = chosen spec schema.sortedNames →
      (∀ struct ∈ structs, Built spec schema struct) → Compatible structs) :
    ∃ profile after, (build spec schema).outcome { options } = (.ok profile, after) := by
  obtain ⟨structs, after, hbuilt⟩ :=
    exists_buildStructures schema.sortedNames (contains_sortedNames schema) hselects.described
      hselects.distinct [] (start options spec schema)
      fun name hname ↦ ⟨hselects.usable name hname, rfl⟩
  obtain ⟨horder, hall, -⟩ := (structuresBuilt_of_ok (contains_sortedNames schema) hbuilt).described
  exact ⟨_, after, outcome_build_of_compatible hselects.profile hbuilt (hcompatible structs horder hall)⟩

end Profile

end BinaryLayout
