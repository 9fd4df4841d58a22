import BinaryLayout.Proofs.Resolution

/-!
# The Arena of Fields

The fields of a run are numbered, and the field of an array or pointer holds the number of the field of
its element. Following these numbers leads from every field back to the kind that was resolved for it,
whatever was added later, since an element always has a lesser number than its owner.
-/

namespace BinaryLayout

namespace Kind

def Calls (kind needed : Kind) : Prop :=
  needed ∈ kind.dependencies

/-- The kind calls the helper of the other, directly or through further kinds, or is that kind. -/
abbrev Needs : Kind → Kind → Prop :=
  Relation.ReflTransGen Calls

/-- The kinds whose helpers are recorded for a kind, in the order in which this is done. -/
def closure : Kind → List Kind
  | .array count element => element.closure ++ [.array count element]
  | .pointer element => word :: element.closure ++ [.pointer element]
  | kind => kind.dependencies ++ [kind]

/-- Induction along the elements of arrays and pointers. -/
theorem element_induction {motive : Kind → Prop}
    (leaf : ∀ kind, kind.element? = none → motive kind)
    (step : ∀ kind element, kind.element? = some element → motive element → motive kind)
    (kind : Kind) : motive kind := by
  induction kind with
  | array count element ih => exact step _ element rfl ih
  | pointer element ih => exact step _ element rfl ih
  | _ => exact leaf _ rfl

theorem Needs.of_element {kind element needed : Kind} (helement : kind.element? = some element)
    (hneeded : element.Needs needed) : kind.Needs needed := by
  refine .head ?_ hneeded
  cases kind <;> simp_all [element?, Calls, dependencies]

end Kind

namespace Arena

/-- The kind of the field with a number, where the element of an array or pointer is the kind of the
field that its number leads to. -/
inductive Reads (arena : Array Field) : Nat → Kind → Prop
  | leaf {number : Nat} {field : Field} (hfield : arena[number]? = some field)
      (hleaf : field.kind.element? = none) : Reads arena number field.kind
  | array {number target : Nat} {field : Field} {count : Count} {stored element : Kind}
      (hfield : arena[number]? = some field) (hkind : field.kind = .array count stored)
      (htarget : field.target = some target) (helement : Reads arena target element) :
      Reads arena number (.array count element)
  | pointer {number target : Nat} {field : Field} {stored element : Kind}
      (hfield : arena[number]? = some field) (hkind : field.kind = .pointer stored)
      (htarget : field.target = some target) (helement : Reads arena target element) :
      Reads arena number (.pointer element)

/-- An earlier field holds the element of a field that has one. -/
def Holds (arena : Array Field) (bound : Nat) (field : Field) : Prop :=
  ∀ element, field.kind.element? = some element → ∃ target inner, field.target = some target ∧
    target < bound ∧ arena[target]? = some inner ∧ inner.kind = element

/-- The element of every field has a lesser number than the field. -/
def WellFormed (arena : Array Field) : Prop :=
  ∀ number field, arena[number]? = some field → Holds arena number field

theorem wellFormed_empty : WellFormed #[] := by
  intro number field hfield
  simp at hfield

theorem Holds.push {arena : Array Field} {bound : Nat} {field : Field}
    (hfield : Holds arena bound field) (next : Field) : Holds (arena.push next) bound field := by
  intro element helement
  obtain ⟨target, inner, htarget, hless, hinner, hkind⟩ := hfield element helement
  refine ⟨target, inner, htarget, hless, ?_, hkind⟩
  obtain ⟨hbound, hvalue⟩ := Array.getElem?_eq_some_iff.mp hinner
  rw [Array.getElem?_push_lt hbound, hvalue]

theorem WellFormed.push {arena : Array Field} (harena : WellFormed arena) {next : Field}
    (hnext : Holds arena arena.size next) : WellFormed (arena.push next) := by
  intro number field hfield
  rw [Array.getElem?_push] at hfield
  split at hfield
  · rename_i hlast
    obtain rfl : next = field := by simpa using hfield
    rw [hlast]
    exact hnext.push next
  · exact (harena number field hfield).push next

/-- The target of a field leads to the element of its kind. -/
theorem WellFormed.element_eq {arena : Array Field} (harena : WellFormed arena) {number target : Nat}
    {field inner : Field} {element : Kind} (hfield : arena[number]? = some field)
    (helement : field.kind.element? = some element) (htarget : field.target = some target)
    (hinner : arena[target]? = some inner) : inner.kind = element := by
  obtain ⟨target', inner', htarget', -, hinner', hsame⟩ := harena number field hfield element helement
  obtain rfl : target = target' := Option.some.inj (htarget.symm.trans htarget')
  obtain rfl : inner = inner' := Option.some.inj (hinner.symm.trans hinner')
  exact hsame

/-- In a well-formed arena the numbers lead to the kind that the field was made with. -/
theorem reads_iff {arena : Array Field} (harena : WellFormed arena) (number : Nat) (kind : Kind) :
    Reads arena number kind ↔ ∃ field, arena[number]? = some field ∧ field.kind = kind := by
  constructor
  · intro hreads
    induction hreads with
    | leaf hfield _ => exact ⟨_, hfield, rfl⟩
    | array hfield hkind htarget _ ih =>
      obtain ⟨inner, hinner, rfl⟩ := ih
      have hsame := harena.element_eq hfield (by rw [hkind]; rfl) htarget hinner
      exact ⟨_, hfield, by rw [hkind, hsame]⟩
    | pointer hfield hkind htarget _ ih =>
      obtain ⟨inner, hinner, rfl⟩ := ih
      have hsame := harena.element_eq hfield (by rw [hkind]; rfl) htarget hinner
      exact ⟨_, hfield, by rw [hkind, hsame]⟩
  · -- Targets have lesser numbers, so the induction is over the number of the field.
    rintro ⟨field, hfield, rfl⟩
    induction number using Nat.strong_induction_on generalizing field with
    | _ number ih =>
      have hholds := harena number field hfield
      cases hkind : field.kind with
      | array count element =>
        obtain ⟨target, inner, htarget, hless, hinner, rfl⟩ :=
          hholds element (by rw [hkind]; rfl)
        exact .array hfield hkind htarget (ih target hless inner hinner)
      | pointer element =>
        obtain ⟨target, inner, htarget, hless, hinner, rfl⟩ :=
          hholds element (by rw [hkind]; rfl)
        exact .pointer hfield hkind htarget (ih target hless inner hinner)
      | _ =>
        rw [← hkind]
        exact .leaf hfield (by rw [hkind]; rfl)

def Extends (before after : Array Field) : Prop :=
  ∀ (number : Nat) (field : Field), before[number]? = some field → after[number]? = some field

theorem Extends.refl (arena : Array Field) : Extends arena arena :=
  fun _ _ hfield ↦ hfield

theorem Extends.trans {before middle after : Array Field} (hfirst : Extends before middle)
    (hsecond : Extends middle after) : Extends before after :=
  fun number field hfield ↦ hsecond number field (hfirst number field hfield)

theorem extends_push (arena : Array Field) (field : Field) : Extends arena (arena.push field) := by
  intro number found hfound
  obtain ⟨hbound, hvalue⟩ := Array.getElem?_eq_some_iff.mp hfound
  rw [Array.getElem?_push_lt hbound, hvalue]

/-- A kind of a field of the arena, or one whose helper such a kind needs. -/
def Occurs (arena : Array Field) (kind : Kind) : Prop :=
  ∃ field ∈ arena, field.kind.Needs kind

theorem occurs_push (arena : Array Field) (field : Field) (kind : Kind) :
    Occurs (arena.push field) kind ↔ Occurs arena kind ∨ field.kind.Needs kind := by
  simp only [Occurs, Array.mem_push, or_and_right, exists_or, exists_eq_left]

/-- The kinds that occur are those that the numbers lead to, with what they need. -/
theorem occurs_iff_reads {arena : Array Field} (harena : WellFormed arena) (needed : Kind) :
    Occurs arena needed ↔ ∃ number kind, Reads arena number kind ∧ kind.Needs needed := by
  simp only [Occurs, reads_iff harena, Array.mem_iff_getElem?]
  constructor
  · rintro ⟨field, ⟨number, hfield⟩, hneeds⟩
    exact ⟨number, field.kind, ⟨field, hfield, rfl⟩, hneeds⟩
  · rintro ⟨number, _, ⟨field, hfield, rfl⟩, hneeds⟩
    exact ⟨field, ⟨number, hfield⟩, hneeds⟩

end Arena

namespace Context

@[simp]
theorem record_arena (kind : Kind) (context : Context) :
    (record kind context).arena = context.arena := by
  unfold record
  split
  · rfl
  · split <;> rfl

@[simp]
theorem record_options (kind : Kind) (context : Context) :
    (record kind context).options = context.options := by
  unfold record
  split
  · rfl
  · split <;> rfl

/-- Registering a kind records everything it needs, one after the other. -/
theorem register_eq_foldl (kind : Kind) : ∀ context : Context,
    register kind context = kind.closure.foldl (fun before needed ↦ record needed before) context := by
  induction kind with
  | array count element ih => intro context; simp [register, Kind.closure, ih]
  | pointer element ih => intro context; simp [register, Kind.closure, ih]
  | _ => intro context; simp [register, Kind.closure]

/-- Registering a kind keeps what recording one does. -/
theorem register_keeps {α : Type} {view : Context → α}
    (hrecord : ∀ kind context, view (record kind context) = view context) (kind : Kind)
    (context : Context) : view (register kind context) = view context := by
  rw [register_eq_foldl]
  generalize kind.closure = kinds
  induction kinds generalizing context with
  | nil => rfl
  | cons first rest ih => rw [List.foldl_cons, ih, hrecord]

@[simp]
theorem register_arena (kind : Kind) (context : Context) :
    (register kind context).arena = context.arena :=
  register_keeps record_arena kind context

@[simp]
theorem register_options (kind : Kind) (context : Context) :
    (register kind context).options = context.options :=
  register_keeps record_options kind context

/-! ## Installing -/

/-- Reporting a structure touches neither the fields nor the helpers. -/
theorem install_of_leaf {kind : Kind} (hleaf : kind.element? = none) (outside : Option String)
    (offset : UInt64) (context : Context) :
    ∃ reported : Context, reported.arena = context.arena ∧ reported.helpers = context.helpers ∧
      reported.options = context.options ∧
      install outside kind offset context =
        allocate ⟨offset, kind, none⟩ (register kind reported) := by
  have hinstall := install_leaf hleaf outside offset context
  cases outside with
  | none => exact ⟨context, rfl, rfl, rfl, hinstall⟩
  | some struct => exact ⟨context.report (.outside struct), rfl, rfl, rfl, hinstall⟩

@[simp]
theorem install_options (outside : Option String) (kind : Kind) : ∀ (offset : UInt64)
    (context : Context), (install outside kind offset context).2.options = context.options := by
  induction kind using Kind.element_induction with
  | leaf kind hleaf =>
    intro offset context
    obtain ⟨reported, -, -, hoptions, hinstall⟩ := install_of_leaf hleaf outside offset context
    simp [hinstall, allocate, hoptions]
  | step kind element helement ih =>
    intro offset context
    simp [install_of_element helement, allocate, ih]

/-- Installing a kind makes occur what the kind needs, and nothing else. -/
theorem occurs_install (outside : Option String) (kind needed : Kind) : ∀ (offset : UInt64)
    (context : Context), Arena.Occurs (install outside kind offset context).2.arena needed ↔
      Arena.Occurs context.arena needed ∨ kind.Needs needed := by
  induction kind using Kind.element_induction with
  | leaf kind hleaf =>
    intro offset context
    obtain ⟨reported, harena, -, -, hinstall⟩ := install_of_leaf hleaf outside offset context
    simp [hinstall, allocate, harena, Arena.occurs_push]
  | step kind element helement ih =>
    intro offset context
    rw [install_of_element helement, allocate, register_arena, Arena.occurs_push, ih]
    constructor
    · rintro ((hbefore | hinner) | hown)
      · exact .inl hbefore
      · exact .inr (hinner.of_element helement)
      · exact .inr hown
    · rintro (hbefore | hown)
      · exact .inl (.inl hbefore)
      · exact .inr hown

/-- The arena stays well-formed, and the number that comes out is that of the kind. -/
theorem install_wellFormed (outside : Option String) (kind : Kind) : ∀ (offset : UInt64)
    (context : Context), Arena.WellFormed context.arena →
      Arena.WellFormed (install outside kind offset context).2.arena ∧
        ∃ field, (install outside kind offset context).2.arena[
            (install outside kind offset context).1.number]? = some field ∧ field.kind = kind := by
  induction kind using Kind.element_induction with
  | leaf kind hleaf =>
    intro offset context harena
    obtain ⟨reported, hreported, -, -, hinstall⟩ := install_of_leaf hleaf outside offset context
    rw [hinstall]
    simp only [allocate, register_arena, hreported]
    refine ⟨harena.push ?_, _, Array.getElem?_push_size, rfl⟩
    intro element helement
    simp [hleaf] at helement
  | step kind element helement ih =>
    intro offset context harena
    obtain ⟨hinner, field, hfield, hkind⟩ := ih 0 context harena
    rw [install_of_element helement]
    simp only [allocate, register_arena]
    refine ⟨hinner.push ?_, _, Array.getElem?_push_size, rfl⟩
    intro element' helement'
    obtain rfl : element = element' := Option.some.inj (helement.symm.trans helement')
    exact ⟨_, field, rfl, (Array.getElem?_eq_some_iff.mp hfield).1, hfield, hkind⟩

/-- Installing a kind adds fields, of which the last has the number that comes out. -/
theorem install_numbered (outside : Option String) (kind : Kind) : ∀ (offset : UInt64)
    (context : Context),
    Arena.Extends context.arena (context.install outside kind offset).2.arena ∧
      (context.install outside kind offset).2.arena[(context.install outside kind offset).1.number]? =
        some (context.install outside kind offset).1.field := by
  induction kind using Kind.element_induction with
  | leaf kind hleaf =>
    intro offset context
    obtain ⟨reported, harena, -, -, hinstall⟩ := install_of_leaf hleaf outside offset context
    rw [hinstall]
    simp only [allocate, register_arena, harena]
    exact ⟨Arena.extends_push _ _, Array.getElem?_push_size⟩
  | step kind element helement ih =>
    intro offset context
    rw [install_of_element helement]
    simp only [allocate, register_arena]
    exact ⟨(ih 0 context).1.trans (Arena.extends_push _ _), Array.getElem?_push_size⟩

end Context

end BinaryLayout
