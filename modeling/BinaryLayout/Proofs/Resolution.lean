import BinaryLayout.Field.Context
import Mathlib

/-!
# Resolving in One Pass

Resolving an entry records and numbers the element of an array or pointer before the array or pointer
itself, at any depth. The outcome is that of two passes: the entry is read as a whole, and what it
describes is installed. So an entry that is refused, however deep inside it the fault lies, leaves the
context as it was.
-/

namespace BinaryLayout

theorem exists_of_bind_eq_ok {ε α β : Type} {step : Except ε α} {next : α → Except ε β} {result : β}
    (hresult : step >>= next = .ok result) : ∃ value, step = .ok value ∧ next value = .ok result := by
  cases step with
  | error error => cases hresult
  | ok value => exact ⟨value, rfl, hresult⟩

namespace Attempt

variable {ε α β : Type}

def outcome (step : Attempt ε α) (context : Context) : Except ε α × Context :=
  step.run.run context

@[simp]
theorem outcome_pure (value : α) (context : Context) :
    (pure value : Attempt ε α).outcome context = (.ok value, context) :=
  rfl

@[simp]
theorem outcome_throw (error : ε) (context : Context) :
    (throw error : Attempt ε α).outcome context = (.error error, context) :=
  rfl

@[simp]
theorem outcome_get (context : Context) :
    (get : Attempt ε Context).outcome context = (.ok context, context) :=
  rfl

@[simp]
theorem outcome_set (after context : Context) :
    (set after : Attempt ε PUnit).outcome context = (.ok ⟨⟩, after) :=
  rfl

@[simp]
theorem outcome_modify (change : Context → Context) (context : Context) :
    (modify change : Attempt ε PUnit).outcome context = (.ok ⟨⟩, change context) :=
  rfl

@[simp]
theorem outcome_modifyGet (change : Context → α × Context) (context : Context) :
    (modifyGet change : Attempt ε α).outcome context = (.ok (change context).1, (change context).2) :=
  rfl

@[simp]
theorem outcome_except (result : Except ε α) (context : Context) :
    (liftM result : Attempt ε α).outcome context = (result, context) :=
  rfl

@[simp]
theorem outcome_bind (step : Attempt ε α) (next : α → Attempt ε β) (context : Context) :
    (step >>= next).outcome context =
      match step.outcome context with
      | (.ok value, after) => (next value).outcome after
      | (.error error, after) => (.error error, after) := by
  simp only [outcome, ExceptT.run_bind, StateT.run_bind]
  generalize StateT.run (ExceptT.run step) context = pair
  rcases pair with ⟨error | value, after⟩ <;> rfl

@[simp]
theorem outcome_map (change : α → β) (step : Attempt ε α) (context : Context) :
    (change <$> step).outcome context =
      ((step.outcome context).1.map change, (step.outcome context).2) := by
  rw [← bind_pure_comp, outcome_bind]
  rcases step.outcome context with ⟨error | value, after⟩ <;> rfl

theorem exists_of_outcome_bind {step : Attempt ε α} {next : α → Attempt ε β} {context final : Context}
    {result : β} (hresult : (step >>= next).outcome context = (.ok result, final)) :
    ∃ value after, step.outcome context = (.ok value, after) ∧
      (next value).outcome after = (.ok result, final) := by
  rw [outcome_bind] at hresult
  split at hresult
  · rename_i value after hstep
    exact ⟨value, after, hstep, hresult⟩
  · cases hresult

end Attempt

namespace Description

/-- The description of the kind `name` with its parameters. The fuel exceeds the depth of the
parameters. -/
def ofNameWith : Nat → String → Option Json → Except EntryError Description
  | 0, name, _ => .error (.structureName name)
  | fuel + 1, name, value => do
    if name = "Array" then
      let given ← parameters name Parameters.target value
      let some target := given.target | .error (.missingTarget name)
      let inner ← ofNameWith fuel target given.arguments
      return { inner with kind := .array (given.count.getD (.fixed 0)) inner.kind }
    else if name = "Pointer" then
      let given ← parameters name Parameters.target value
      let some target := given.target | .error (.missingTarget name)
      let inner ← ofNameWith fuel target given.arguments
      return { inner with kind := .pointer inner.kind }
    else simple name value

def ofName (name : String) (value : Option Json) : Except EntryError Description :=
  ofNameWith ((given value).depth + 1) name value

theorem parameters_eq_ok {α : Type} {kind : String} {decode : Json → Except Json.Error α}
    {value : Option Json} {found : α} (hfound : parameters kind decode value = .ok found) :
    decode (given value) = .ok found := by
  unfold parameters at hfound
  cases hdecode : decode (given value) with
  | error error => simp [hdecode, Except.mapError] at hfound
  | ok result => simpa [hdecode, Except.mapError] using hfound

/-- The range is taken as it is written, or it is refused. -/
theorem ofBitRange_eq_ok_iff (range : Parameters.BitRange) (found : Description) :
    ofBitRange range = .ok found ↔ ∃ field : BitField, found = ⟨.bitField field, none⟩ ∧
      field.start.val = range.start ∧ field.stop.val = range.stop ∧ field.width = range.width := by
  unfold ofBitRange
  constructor
  · intro hfound
    split at hfound
    · split at hfound
      · exact ⟨_, (Except.ok.inj hfound).symm, rfl, rfl, rfl⟩
      · cases hfound
    · cases hfound
  · rintro ⟨⟨start, stop, width⟩, rfl, hstart, hstop, rfl⟩
    have hlower : range.start < 64 := hstart ▸ start.isLt
    have hupper : range.stop < 65 := hstop ▸ stop.isLt
    rw [dif_pos hlower, dif_pos hupper]
    simp [← hstart, ← hstop]

/-- What a name and its parameters describe where the kind has no element. -/
inductive Simple (value : Option Json) : String → Description → Prop
  | enumeration {found : Enumeration} (hfound : Parameters.enumeration (given value) = .ok found) :
      Simple value "Enumeration" ⟨.enumeration found, none⟩
  | flags {found : Flags} (hfound : Parameters.flags (given value) = .ok found) :
      Simple value "Flags" ⟨.flags found, none⟩
  | bitField {range : Parameters.BitRange} {field : BitField}
      (hrange : Parameters.bitRange (given value) = .ok range)
      (hfield : ofBitRange range = .ok ⟨.bitField field, none⟩) :
      Simple value "BitField" ⟨.bitField field, none⟩
  | signature {expected : String} (hexpected : Parameters.signature (given value) = .ok expected) :
      Simple value "Signature" ⟨.signature expected.toUTF8.data.toList, none⟩
  | bytes {length : Option UInt64} (hlength : Parameters.length (given value) = .ok length) :
      Simple value "String" ⟨.text .bytes length, none⟩
  | utf16 {length : Option UInt64} (hlength : Parameters.length (given value) = .ok length) :
      Simple value "UnicodeString" ⟨.text .utf16 length, none⟩
  | integer {name : String} {type : IntegerType} (htype : IntegerType.ofName? name = some type) :
      Simple value name ⟨.integer type, none⟩
  | reference {name : String} (hname : Name.isIdentifier (Name.canonical name) = true) :
      Simple value name ⟨.reference (Name.canonical name), some name⟩

theorem simple_of_ok {name : String} {value : Option Json} {found : Description}
    (hfound : simple name value = .ok found) : Simple value name found := by
  have hplain {α : Type} {kind : String} {decode : Json → Except Json.Error α} {build : α → Description}
      (hread : (do return build (← parameters kind decode value)) = .ok found) :
      ∃ read, decode (given value) = .ok read ∧ build read = found := by
    obtain ⟨read, hdecode, hbuild⟩ := exists_of_bind_eq_ok hread
    exact ⟨read, parameters_eq_ok hdecode, Except.ok.inj hbuild⟩
  unfold simple at hfound
  split at hfound
  · obtain ⟨read, hread, rfl⟩ := hplain hfound
    exact .enumeration hread
  · obtain ⟨read, hread, rfl⟩ := hplain hfound
    exact .flags hread
  · obtain ⟨range, hrange, hfound⟩ := exists_of_bind_eq_ok hfound
    obtain ⟨field, rfl, -⟩ := (ofBitRange_eq_ok_iff range found).mp hfound
    exact .bitField (parameters_eq_ok hrange) hfound
  · obtain ⟨read, hread, rfl⟩ := hplain hfound
    exact .signature hread
  · obtain ⟨read, hread, rfl⟩ := hplain hfound
    exact .bytes hread
  · obtain ⟨read, hread, rfl⟩ := hplain hfound
    exact .utf16 hread
  · split at hfound
    · rename_i type htype
      obtain rfl : _ = found := Except.ok.inj hfound
      exact .integer htype
    · unfold ofReference at hfound
      split at hfound
      · rename_i hname
        obtain rfl : _ = found := Except.ok.inj hfound
        exact .reference hname
      · cases hfound

theorem simple_element {name : String} {value : Option Json} {found : Description}
    (hfound : simple name value = .ok found) : found.kind.element? = none := by
  cases simple_of_ok hfound <;> rfl

/-- The parts of a description that goes around that of its target. -/
theorem exists_of_around {fuel : Nat} {name : String} {value : Option Json} {found : Description}
    (make : Parameters.Target → Kind → Kind)
    (hmake : ∀ given kind, (make given kind).element? = some kind)
    (hfound : (do
      let given ← parameters name Parameters.target value
      let some target := given.target | .error (.missingTarget name)
      let inner ← ofNameWith fuel target given.arguments
      return { inner with kind := make given inner.kind }) = .ok found) :
    ∃ given target inner, Parameters.target (Description.given value) = .ok given ∧
      given.target = some target ∧ ofNameWith fuel target given.arguments = .ok inner ∧
      found.kind.element? = some inner.kind := by
  obtain ⟨given, hgiven, hfound⟩ := exists_of_bind_eq_ok hfound
  split at hfound
  · rename_i target htarget
    obtain ⟨inner, hinner, hfound⟩ := exists_of_bind_eq_ok hfound
    obtain rfl : _ = found := Except.ok.inj hfound
    exact ⟨given, target, inner, parameters_eq_ok hgiven, htarget, hinner, hmake given inner.kind⟩
  · cases hfound

/-- A description that is read goes around that of the target, or is simple. -/
theorem ofNameWith_cases {fuel : Nat} {name : String} {value : Option Json} {found : Description}
    (hfound : ofNameWith (fuel + 1) name value = .ok found) :
    (∃ given target inner, (name = "Array" ∨ name = "Pointer") ∧
      Parameters.target (Description.given value) = .ok given ∧ given.target = some target ∧
      ofNameWith fuel target given.arguments = .ok inner ∧ found.kind.element? = some inner.kind) ∨
    name ≠ "Array" ∧ name ≠ "Pointer" ∧ simple name value = .ok found := by
  unfold ofNameWith at hfound
  split at hfound
  · rename_i harray
    obtain ⟨given, target, inner, hparts⟩ :=
      exists_of_around (fun given ↦ .array (given.count.getD (.fixed 0))) (fun _ _ ↦ rfl) hfound
    exact .inl ⟨given, target, inner, .inl harray, hparts⟩
  · rename_i harray
    split at hfound
    · rename_i hpointer
      obtain ⟨given, target, inner, hparts⟩ :=
        exists_of_around (fun _ ↦ .pointer) (fun _ _ ↦ rfl) hfound
      exact .inl ⟨given, target, inner, .inr hpointer, hparts⟩
    · rename_i hpointer
      exact .inr ⟨harray, hpointer, hfound⟩

/-- The structure that is referred to, if the run does not select it. -/
def outside (spec : Spec) (found : Description) : Option String :=
  found.referred.filter fun struct ↦ !spec.selectsStruct struct

end Description

structure Entry where
  offset : UInt64
  description : Description
deriving DecidableEq, Repr

namespace Entry

def ofJson (entry : Json) : Except EntryError Entry := do
  match entry with
  | .array (offset :: kind :: _) =>
    let some position := offset.natural? | .error (.offset offset)
    let (name, value) ← kindParts entry kind
    let some written := name.string? | .error (.kindName name)
    return ⟨position, ← Description.ofName written value⟩
  | _ => .error (.malformed entry)

theorem ofJson_eq (entry : Json) :
    ofJson entry = do
      let (offset, name, value) ← parts entry
      return ⟨offset, ← Description.ofName name value⟩ := by
  unfold ofJson parts
  cases entry with
  | array items =>
    match items with
    | [] => rfl
    | [_] => rfl
    | offset :: kind :: rest =>
      dsimp only
      cases offset.natural? with
      | none => rfl
      | some position =>
        dsimp only
        cases kindParts (.array (offset :: kind :: rest)) kind with
        | error error => rfl
        | ok found => cases hname : found.1.string? <;> simp [hname, bind, Except.bind, pure, Except.pure]
  | _ => rfl

end Entry

/-! ## Reading first and installing then -/

namespace Context

/-- Takes a kind into the run at the given offset, its element first. `outside` is the name of the
structure it refers to, if the run does not select it. -/
def install (outside : Option String) : Kind → UInt64 → Context → Numbered × Context
  | .array count element, offset, context =>
    let (target, inner) := install outside element 0 context
    let kind := Kind.array count element
    allocate ⟨offset, kind, some target.number⟩ (register kind inner)
  | .pointer element, offset, context =>
    let (target, inner) := install outside element 0 context
    let kind := Kind.pointer element
    allocate ⟨offset, kind, some target.number⟩ (register kind inner)
  | kind, offset, context =>
    let reported :=
      match outside with
      | some struct => context.report (.outside struct)
      | none => context
    allocate ⟨offset, kind, none⟩ (register kind reported)

theorem install_field (outside : Option String) (kind : Kind) (offset : UInt64) (context : Context) :
    (context.install outside kind offset).1.field.kind = kind ∧
      (context.install outside kind offset).1.field.offset = offset := by
  cases kind <;> exact ⟨rfl, rfl⟩

theorem outcome_place (offset : UInt64) (kind : Kind) (target : Option Nat) (context : Context) :
    (place offset kind target).outcome context =
      (.ok (allocate ⟨offset, kind, target⟩ (register kind context)).1,
        (allocate ⟨offset, kind, target⟩ (register kind context)).2) :=
  rfl

/-- The outcome of installing what was read, or the error with the context as it was. -/
def settled (spec : Spec) (offset : UInt64) (context : Context) :
    Except EntryError Description → Except EntryError Numbered × Context
  | .error error => (.error error, context)
  | .ok found =>
    (.ok (context.install (found.outside spec) found.kind offset).1,
      (context.install (found.outside spec) found.kind offset).2)

theorem outcome_resolveTarget (kind : String) (given : Parameters.Target)
    (resolve : String → Option Json → Attempt EntryError Numbered) (context : Context) :
    (resolveTarget kind given resolve).outcome context =
      match given.target with
      | none => (.error (.missingTarget kind), context)
      | some target => (resolve target given.arguments).outcome context := by
  unfold resolveTarget
  cases given.target <;> rfl

/-- What `install` does for a kind without an element. -/
theorem install_leaf {kind : Kind} (hleaf : kind.element? = none) (outside : Option String)
    (offset : UInt64) (context : Context) :
    install outside kind offset context =
      allocate ⟨offset, kind, none⟩ (register kind
        (outside.elim context fun struct ↦ context.report (.outside struct))) := by
  cases kind with
  | array count element => cases hleaf
  | pointer element => cases hleaf
  | _ => cases outside <;> rfl

/-- What `install` does for an array or pointer: the element first, then the kind itself. -/
theorem install_of_element {kind element : Kind} (helement : kind.element? = some element)
    (outside : Option String) (offset : UInt64) (context : Context) :
    install outside kind offset context =
      allocate ⟨offset, kind, some (install outside element 0 context).1.number⟩
        (register kind (install outside element 0 context).2) := by
  cases kind with
  | array count inner =>
    obtain rfl : inner = element := by simpa [Kind.element?] using helement
    rfl
  | pointer inner =>
    obtain rfl : inner = element := by simpa [Kind.element?] using helement
    rfl
  | _ => simp [Kind.element?] at helement

/-- Resolving the element that is named and placing the kind around it. -/
theorem outcome_around {spec : Spec} {fuel : Nat}
    (ih : ∀ (name : String) (value : Option Json) (offset : UInt64) (context : Context),
      (resolveNamed spec fuel name value offset).outcome context =
        settled spec offset context (Description.ofNameWith fuel name value))
    (make : Kind → Kind) (hmake : ∀ kind, (make kind).element? = some kind) (name : String)
    (given : Parameters.Target) (offset : UInt64) (context : Context) :
    (do let element ← resolveTarget name given (resolveNamed spec fuel · · 0)
        place offset (make element.field.kind) element.number : Attempt _ _).outcome context =
      settled spec offset context (do
        let some target := given.target | .error (.missingTarget name)
        let inner ← Description.ofNameWith fuel target given.arguments
        return { inner with kind := make inner.kind }) := by
  rw [Attempt.outcome_bind, outcome_resolveTarget]
  cases given.target with
  | none => rfl
  | some target =>
    simp only [ih]
    cases Description.ofNameWith fuel target given.arguments with
    | error error => rfl
    | ok inner =>
      have hkind := (install_field (inner.outside spec) inner.kind 0 context).1
      simp only [settled, outcome_place, hkind]
      exact congrArg (fun installed ↦ (Except.ok installed.1, installed.2))
        (install_of_element (hmake inner.kind) (inner.outside spec) offset context).symm

theorem outcome_resolveNamed (spec : Spec) (fuel : Nat) :
    ∀ (name : String) (value : Option Json) (offset : UInt64) (context : Context),
      (resolveNamed spec fuel name value offset).outcome context =
        settled spec offset context (Description.ofNameWith fuel name value) := by
  induction fuel with
  | zero => exact fun _ _ _ _ ↦ rfl
  | succ fuel ih =>
    intro name value offset context
    unfold resolveNamed Description.ofNameWith
    split
    · rw [Attempt.outcome_bind, Attempt.outcome_except]
      cases Description.parameters name Parameters.target value with
      | error error => rfl
      | ok given => exact outcome_around ih (.array _) (fun _ ↦ rfl) name given offset context
    · split
      · rw [Attempt.outcome_bind, Attempt.outcome_except]
        cases Description.parameters name Parameters.target value with
        | error error => rfl
        | ok given => exact outcome_around ih .pointer (fun _ ↦ rfl) name given offset context
      · rw [Attempt.outcome_bind, Attempt.outcome_except]
        cases hfound : Description.simple name value with
        | error error => rfl
        | ok found =>
          have hinstall := install_leaf (Description.simple_element hfound) (found.outside spec)
            offset context
          simp only [settled, hinstall]
          obtain ⟨kind, referred⟩ := found
          cases referred with
          | none => rfl
          | some struct =>
            cases hselected : spec.selectsStruct struct with
            | true => simp [Description.outside, hselected, outcome_place, Option.filter]
            | false => simp [Description.outside, hselected, outcome_place, Option.filter]

/-- The outcome of resolving an entry, by what the entry says. -/
theorem resolve_eq (spec : Spec) (entry : Json) (context : Context) :
    context.resolve spec entry =
      match Entry.ofJson entry with
      | .error error => (.error error, context)
      | .ok found => settled spec found.offset context (.ok found.description) := by
  change (resolveEntry spec entry).outcome context = _
  rw [resolveEntry, Attempt.outcome_bind, Attempt.outcome_except, Entry.ofJson_eq]
  cases Entry.parts entry with
  | error error => rfl
  | ok parts =>
    obtain ⟨offset, name, value⟩ := parts
    have hnamed := outcome_resolveNamed spec ((Description.given value).depth + 1) name value offset
      context
    refine hnamed.trans ?_
    change settled spec offset context (Description.ofName name value) = _
    cases hfound : Description.ofName name value <;>
      simp [hfound, settled, bind, Except.bind, pure, Except.pure]

/-- Whether an entry is refused depends on the entry alone, and then the context is as it was: no field
is numbered, no helper is recorded, and nothing is reported. -/
theorem resolve_refused (spec : Spec) (entry : Json) (context : Context) (error : EntryError) :
    ((context.resolve spec entry).1 = .error error ↔ Entry.ofJson entry = .error error) ∧
      ((context.resolve spec entry).1 = .error error → (context.resolve spec entry).2 = context) := by
  rw [resolve_eq]
  cases Entry.ofJson entry with
  | error found => simp
  | ok found => simp [settled]

def pointersTo (target : String) (arguments : Json) : Json :=
  .array [.number (.natural 4), .array [.string "Array", .object [("target", .string "Pointer"),
    ("target_args", .object [("target", .string target), ("target_args", arguments)])]]]

/-- The fault lies in the element of the element, after entries that were resolved. -/
theorem resolve_refused_inside :
    let before := (resolve {} (pointersTo "String" .null) { options := {} }).2
    let entry := pointersTo "BitField" (.object [("end_bit", .number (.natural 65))])
    before.arena.size = 3 ∧ (before.resolve {} entry).1 = .error (.bitRange 0 65) ∧
      (before.resolve {} entry).2 = before := by
  intro before entry
  obtain ⟨hiff, hkept⟩ := resolve_refused {} entry before (.bitRange 0 65)
  have herror : (before.resolve {} entry).1 = .error (.bitRange 0 65) := hiff.mpr rfl
  exact ⟨by decide +kernel, herror, hkept herror⟩

end Context

end BinaryLayout
