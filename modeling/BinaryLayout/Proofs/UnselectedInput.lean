import BinaryLayout.Proofs.OrderInvariance

/-!
# Input That a Run Does Not Select

A run gives the same result on a schema and on what is left of it without the structures and fields that
the run does not select, whatever is wrong with those. Two such runs report different steps on their
way. The relation between them leaves the reports out, and it holds of every step, also of one that
ends the run with an error.
-/

namespace BinaryLayout

namespace Schema

/-- The entry of a structure with the fields that are kept. Other entries stay as they are. -/
def keptEntry (spec : Spec) (struct : String) : Json → Json
  | .array (size :: .object fields :: rest) =>
    .array (size :: .object (Structure.kept spec struct fields) :: rest)
  | entry => entry

/-- The schema of the structures that a run selects, with the fields that it keeps. -/
def restrict (schema : Schema) (spec : Spec) : Schema :=
  ⟨(schema.entries.filter fun entry ↦ spec.selectsStruct entry.1).map fun entry ↦
    (entry.1, keptEntry spec entry.1 entry.2)⟩

/-- A selected name leads to what is kept of its entry. -/
theorem entry?_restrict (schema : Schema) {spec : Spec} {name : String}
    (hselected : spec.selectsStruct name = true) :
    Schema.entry? (schema.restrict spec) name = (schema.entry? name).map (keptEntry spec name) := by
  unfold entry? restrict
  rw [Ordered.lookup_map, Ordered.lookup_filter hselected]

theorem sortedNames_restrict (schema : Schema) (spec : Spec) :
    (schema.restrict spec).sortedNames = Profile.chosen spec schema.sortedNames := by
  have hperm : ((schema.restrict spec).entries.map Prod.fst).Perm
      (Profile.chosen spec schema.sortedNames) := by
    have hnames : (schema.restrict spec).entries.map Prod.fst =
        (schema.entries.map Prod.fst).filter spec.selectsStruct := by
      simp [restrict, List.filter_map, Function.comp_def]
    rw [hnames]
    exact ((List.mergeSort_perm _ _).filter _).symm
  have hsorted : (Profile.chosen spec schema.sortedNames).Pairwise (· ≤ ·) :=
    (pairwise_mergeSort_key id _).filter _
  refine (mergeSort_eq_of_perm id hperm fun _ _ _ _ hsame ↦ hsame).trans ?_
  exact List.mergeSort_of_pairwise (hsorted.imp fun hle ↦ by simpa using hle)

end Schema

namespace Context

structure Alike (first second : Context) : Prop where
  options : first.options = second.options
  arena : first.arena = second.arena
  helpers : first.helpers = second.helpers

namespace Alike

variable {first second : Context}

theorem record (halike : Alike first second) (kind : Kind) :
    Alike (first.record kind) (second.record kind) := by
  obtain ⟨hoptions, harena, hhelpers⟩ := halike
  unfold Context.record hasHelper
  rw [hoptions, hhelpers]
  split
  · exact ⟨hoptions, harena, hhelpers⟩
  · split
    · exact ⟨hoptions, harena, hhelpers⟩
    · exact ⟨rfl, harena, rfl⟩

theorem register (halike : Alike first second) (kind : Kind) :
    Alike (first.register kind) (second.register kind) := by
  rw [register_eq_foldl, register_eq_foldl]
  generalize kind.closure = kinds
  induction kinds generalizing first second with
  | nil => exact halike
  | cons needed rest ih => exact ih (halike.record needed)

theorem allocate (halike : Alike first second) (field : Field) :
    (first.allocate field).1 = (second.allocate field).1 ∧
      Alike (first.allocate field).2 (second.allocate field).2 := by
  obtain ⟨hoptions, harena, hhelpers⟩ := halike
  simp only [Context.allocate, harena, true_and]
  exact ⟨hoptions, rfl, hhelpers⟩

/-- Installing gives the same number in both contexts. -/
theorem install (halike : Alike first second) (outside : Option String) (kind : Kind) :
    ∀ offset : UInt64,
      (first.install outside kind offset).1 = (second.install outside kind offset).1 ∧
        Alike (first.install outside kind offset).2 (second.install outside kind offset).2 := by
  induction kind using Kind.element_induction with
  | leaf kind hleaf =>
    intro offset
    obtain ⟨reported, harena, hhelpers, hoptions, hfirst⟩ :=
      install_of_leaf hleaf outside offset first
    obtain ⟨reported', harena', hhelpers', hoptions', hsecond⟩ :=
      install_of_leaf hleaf outside offset second
    have hreported : Alike reported reported' :=
      ⟨hoptions.trans (halike.options.trans hoptions'.symm),
        harena.trans (halike.arena.trans harena'.symm),
        hhelpers.trans (halike.helpers.trans hhelpers'.symm)⟩
    rw [hfirst, hsecond]
    exact (hreported.register kind).allocate _
  | step kind element helement ih =>
    intro offset
    obtain ⟨hnumber, hinner⟩ := ih 0
    rw [install_of_element helement, install_of_element helement, hnumber]
    exact (hinner.register kind).allocate _

end Alike

end Context

namespace Run

def Same {ε α : Type} (first second : Except ε α × Context) : Prop :=
  first.1 = second.1 ∧ first.2.Alike second.2

theorem Same.bind {α β : Type} {step step' : Run α} {next next' : α → Run β}
    {context context' : Context} (hstep : Same (step.outcome context) (step'.outcome context'))
    (hnext : ∀ value {after after' : Context}, after.Alike after' →
      Same ((next value).outcome after) ((next' value).outcome after')) :
    Same ((step >>= next).outcome context) ((step' >>= next').outcome context') := by
  rw [Attempt.outcome_bind, Attempt.outcome_bind]
  generalize step.outcome context = first at *
  generalize step'.outcome context' = second at *
  obtain ⟨result, after⟩ := first
  obtain ⟨rfl, halike⟩ := hstep
  rcases second with ⟨error | value, after'⟩
  · exact ⟨rfl, halike⟩
  · exact hnext value halike

end Run

open Run (Same)

theorem Context.Alike.resolve {first second : Context} (halike : first.Alike second) (spec : Spec)
    (entry : Json) : Same (first.resolve spec entry) (second.resolve spec entry) := by
  rw [Context.resolve_eq, Context.resolve_eq]
  split
  · exact ⟨rfl, halike⟩
  · rename_i found _
    obtain ⟨hnumber, hafter⟩ := halike.install (found.description.outside spec)
      found.description.kind found.offset
    exact ⟨congrArg Except.ok hnumber, hafter⟩

namespace Structure

theorem buildMembers_kept (spec : Spec) (schemaName : String) (fields : List (String × Json)) :
    ∀ {first second : Context}, first.Alike second →
      Same ((buildMembers spec schemaName (kept spec schemaName fields)).outcome first)
        ((buildMembers spec schemaName fields).outcome second) := by
  induction fields with
  | nil => exact fun halike ↦ ⟨rfl, halike⟩
  | cons field rest ih =>
    obtain ⟨name, entry⟩ := field
    intro first second halike
    rw [outcome_buildMembers_cons]
    cases hselected : spec.selectsField schemaName name with
    | false =>
      -- the report of the field is all that the second run has more
      rw [kept_cons_of_passed hselected]
      exact ih ⟨halike.options, halike.arena, halike.helpers⟩
    | true =>
      rw [kept_cons_of_selected hselected, outcome_buildMembers_cons, hselected, if_pos rfl, if_pos rfl]
      cases Name.isIdentifier name with
      | false => exact ⟨rfl, halike⟩
      | true =>
        have hresolve := halike.resolve spec entry
        generalize first.resolve spec entry = resolved at *
        generalize second.resolve spec entry = resolved' at *
        obtain ⟨result, after⟩ := resolved
        obtain ⟨rfl, hafter⟩ := hresolve
        rcases resolved' with ⟨error | found, after'⟩
        · exact ⟨rfl, hafter⟩
        · exact ⟨congrArg (Except.map _) (ih hafter).1, (ih hafter).2⟩

theorem entryParts_keptEntry (spec : Spec) (schemaName : String) (entry : Json) :
    entryParts schemaName (Schema.keptEntry spec schemaName entry) =
      (entryParts schemaName entry).map fun parts ↦ (parts.1, kept spec schemaName parts.2) := by
  unfold Schema.keptEntry
  split
  · rename_i size fields rest
    simp only [entryParts, Json.object?]
    cases size.natural? <;> rfl
  · rename_i hother
    unfold entryParts
    split
    · rename_i size fields rest
      cases fields with
      | object members => exact absurd rfl (hother size members rest)
      | _ => cases size.natural? <;> rfl
    · rfl

theorem build_keptEntry (spec : Spec) (schemaName : String) (entry : Json) {first second : Context}
    (halike : first.Alike second) :
    Same ((build spec schemaName (Schema.keptEntry spec schemaName entry)).outcome first)
      ((build spec schemaName entry).outcome second) := by
  unfold build
  rw [entryParts_keptEntry]
  cases entryParts schemaName entry with
  | error error => exact ⟨rfl, halike⟩
  | ok parts =>
    refine (buildMembers_kept spec schemaName parts.2 halike).bind fun members {after after'} hafter ↦ ?_
    dsimp only
    split
    · exact ⟨rfl, hafter⟩
    · exact ⟨rfl, hafter⟩

end Structure

namespace Profile

theorem buildStructures_chosen (spec : Spec) (schema : Schema) (profile : String) (names : List String)
    (hnames : ∀ name ∈ names, schema.contains name = true) :
    ∀ (taken : List (String × String)) {first second : Context}, first.Alike second →
      Same ((buildStructures spec (schema.restrict spec) profile taken (chosen spec names)).outcome first)
        ((buildStructures spec schema profile taken names).outcome second) := by
  induction names with
  | nil => exact fun taken _ _ halike ↦ ⟨rfl, halike⟩
  | cons name rest ih =>
    intro taken first second halike
    have hrest := ih fun other hother ↦ hnames other (List.mem_cons_of_mem _ hother)
    obtain ⟨entry, hentry⟩ := Option.isSome_iff_exists.mp (hnames name List.mem_cons_self)
    rw [outcome_buildStructures_cons hentry]
    cases hselected : spec.selectsStruct name with
    | false =>
      rw [chosen_cons_of_passed hselected]
      exact hrest taken halike
    | true =>
      have hkept : Schema.entry? (schema.restrict spec) name =
          some (Schema.keptEntry spec name entry) := by
        rw [schema.entry?_restrict hselected, hentry, Option.map_some]
      rw [chosen_cons_of_selected hselected, outcome_buildStructures_cons hkept, hselected, if_pos rfl,
        if_pos rfl]
      cases isStructName profile (Name.canonical name) with
      | false => exact ⟨rfl, halike⟩
      | true =>
        cases taken.lookup (Name.canonical name) with
        | some other => exact ⟨rfl, halike⟩
        | none =>
          refine (Structure.build_keptEntry spec name entry halike).bind fun struct {_ _} hafter ↦ ?_
          exact (hrest _ hafter).bind fun structs {_ _} hlast ↦ ⟨rfl, hlast⟩

theorem build_restrict (options : Options) (spec : Spec) (schema : Schema) :
    Same ((build spec (schema.restrict spec)).outcome { options })
      ((build spec schema).outcome { options }) := by
  have hstart : (start options spec (schema.restrict spec)).Alike (start options spec schema) :=
    ⟨rfl, rfl, rfl⟩
  have hbuilt := buildStructures_chosen spec schema options.profile schema.sortedNames
    (contains_sortedNames schema) [] hstart
  rw [outcome_build, outcome_build, schema.sortedNames_restrict]
  cases isUsableName options.profile with
  | false => exact ⟨rfl, rfl, rfl, rfl⟩
  | true =>
    rw [if_pos rfl, if_pos rfl]
    generalize (buildStructures spec (schema.restrict spec) options.profile []
      (chosen spec schema.sortedNames)).outcome (start options spec (schema.restrict spec)) = first at *
    generalize (buildStructures spec schema options.profile [] schema.sortedNames).outcome
      (start options spec schema) = second at *
    obtain ⟨result, after⟩ := first
    obtain ⟨rfl, halike⟩ := hbuilt
    rcases second with ⟨error | built, after'⟩
    · exact ⟨rfl, halike⟩
    · dsimp only
      cases offsetCollision? [] (offsetOwners (sorted built)) with
      | some error => exact ⟨rfl, halike⟩
      | none => cases Cycle.find? (sorted built) <;> exact ⟨rfl, halike⟩

end Profile

namespace Artifact

/-- What a run does not select changes neither its text nor its error. -/
theorem generateWith_restrict (options : Options) (spec : Spec) (schema : Schema) :
    generateWith options spec (schema.restrict spec) = generateWith options spec schema := by
  have hbuild := Profile.build_restrict options spec schema
  have hgenerate (schema : Schema) : generateWith options spec schema =
      ((Profile.build spec schema).outcome { options }).1.map fun profile ↦
        (code ((Profile.build spec schema).outcome { options }).2 profile).text :=
    rfl
  rw [hgenerate, hgenerate, hbuild.1]
  have hcode : code ((Profile.build spec (schema.restrict spec)).outcome { options }).2 =
      code ((Profile.build spec schema).outcome { options }).2 := by
    funext profile
    exact code_eq hbuild.2.options hbuild.2.helpers rfl rfl
  rw [hcode]

end Artifact

end BinaryLayout
