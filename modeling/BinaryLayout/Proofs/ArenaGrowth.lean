import BinaryLayout.Proofs.HelperClosure

/-!
# The Arena Only Grows

Resolving an entry appends one field for each kind that lies inside another, innermost first, and one
for the kind of the entry itself. Every array or pointer has its element right before it. Whatever is
asked of a field by going from target to target is therefore answered after finitely many steps, and the
answer stays what it is when more entries are resolved.
-/

namespace BinaryLayout

namespace Json

theorem depth_le_of_getElem? {items : List Json} {index : Nat} {item : Json}
    (hitem : items[index]? = some item) : item.depth ≤ depthItems items := by
  induction items generalizing index with
  | nil => cases hitem
  | cons first rest ih =>
    rw [depthItems]
    cases index with
    | zero =>
      obtain rfl : first = item := by simpa using hitem
      exact le_max_left _ _
    | succ index => exact (ih (by simpa using hitem)).trans (le_max_right _ _)

theorem depth_le_of_lookup {members : List (String × Json)} {name : String} {value : Json}
    (hvalue : members.lookup name = some value) : value.depth ≤ depthMembers members := by
  induction members with
  | nil => cases hvalue
  | cons first rest ih =>
    obtain ⟨other, found⟩ := first
    rw [depthMembers]
    rw [List.lookup_cons] at hvalue
    split at hvalue
    · obtain rfl : found = value := Option.some.inj hvalue
      exact le_max_left _ _
    · exact (ih hvalue).trans (le_max_right _ _)

end Json

namespace Parameters

def Origin.Of (value : Json) : Origin → Prop
  | .members given => value = .object given
  | .items given _ => value = .array given

theorem exists_origin {α : Type} {type : String} {checks : List Check}
    {build : Origin → Except Json.Error α}
    {value : Json} {result : α} (hresult : decodeRecord type checks build value = .ok result) :
    ∃ origin, origin.Of value ∧ build origin = .ok result := by
  unfold decodeRecord at hresult
  split at hresult
  · rename_i members
    obtain ⟨⟨⟩, -, hbuild⟩ := exists_of_bind_eq_ok hresult
    exact ⟨.members members, rfl, hbuild⟩
  · rename_i items
    obtain ⟨record, hbuild, hrecord⟩ := exists_of_bind_eq_ok hresult
    split at hrecord
    · cases hrecord
    · obtain rfl : record = result := Except.ok.inj hrecord
      exact ⟨.items items _, rfl, hbuild⟩
  · cases hresult

theorem Origin.Of.depth_pos {value : Json} {origin : Origin} (horigin : origin.Of value) :
    0 < value.depth := by
  cases origin with
  | members given => rw [show value = .object given from horigin, Json.depth]; exact Nat.succ_pos _
  | items given expected => rw [show value = .array given from horigin, Json.depth]; exact Nat.succ_pos _

theorem eq_of_decode_optional {name : String} {value inner : Json}
    (hdecode : (Slot.optional name (.ok : Json → Except Json.Error Json)).decode value =
      .ok (some inner)) :
    value = inner := by
  unfold Slot.optional at hdecode
  dsimp only at hdecode
  split at hdecode
  · cases hdecode
  · exact Option.some.inj (Except.ok.inj hdecode)

/-- What is taken as it stands lies inside the value. -/
theorem Origin.Of.depth_take_lt {value inner : Json} {origin : Origin} (horigin : origin.Of value)
    {index : Nat} {name : String}
    (htake : origin.take index (Slot.optional name (.ok : Json → Except Json.Error Json)) =
      .ok (some inner)) :
    inner.depth < value.depth := by
  cases origin with
  | members given =>
    rw [show value = .object given from horigin, Json.depth, Nat.lt_succ_iff]
    change Slot.ofMembers _ given = _ at htake
    unfold Slot.ofMembers at htake
    split at htake
    · rename_i hfound
      rw [← eq_of_decode_optional htake]
      exact Json.depth_le_of_lookup hfound
    · rename_i hmissing
      cases hmissing
      cases htake
    · cases htake
  | items given expected =>
    rw [show value = .array given from horigin, Json.depth, Nat.lt_succ_iff]
    change Slot.ofItems _ given index expected = _ at htake
    unfold Slot.ofItems at htake
    split at htake
    · rename_i hfound
      rw [← eq_of_decode_optional htake]
      exact Json.depth_le_of_getElem? hfound
    · rename_i hcut
      cases hcut
    · cases htake

/-- Parameters that name a target are an array or object, and those of the target lie inside. -/
theorem depth_arguments_lt {value : Json} {found : Target}
    (hfound : Parameters.target value = .ok found) :
    0 < value.depth ∧ ∀ arguments, found.arguments = some arguments → arguments.depth < value.depth := by
  unfold Parameters.target at hfound
  obtain ⟨origin, horigin, hbuild⟩ := exists_origin hfound
  obtain ⟨target, -, hbuild⟩ := exists_of_bind_eq_ok hbuild
  obtain ⟨arguments, harguments, hbuild⟩ := exists_of_bind_eq_ok hbuild
  obtain ⟨count, -, hbuild⟩ := exists_of_bind_eq_ok hbuild
  obtain rfl : _ = found := Except.ok.inj hbuild
  refine ⟨horigin.depth_pos, ?_⟩
  rintro inner rfl
  exact horigin.depth_take_lt harguments

end Parameters

namespace Description

/-- The target that an array or pointer names, with the parameters of the target. -/
def target? (name : String) (value : Option Json) : Option (String × Option Json) :=
  if name = "Array" ∨ name = "Pointer" then
    match Parameters.target (given value) with
    | .ok found => found.target.map fun target ↦ (target, found.arguments)
    | .error _ => none
  else none

/-- The kind has so many targets below it, each inside the one before. -/
inductive Nests : String → Option Json → Nat → Prop
  | innermost {name : String} {value : Option Json} (hnone : target? name value = none) :
      Nests name value 0
  | around {name inner : String} {value arguments : Option Json} {depth : Nat}
      (htarget : target? name value = some (inner, arguments)) (hinner : Nests inner arguments depth) :
      Nests name value (depth + 1)

theorem target?_eq_some {name inner : String} {value arguments : Option Json}
    (htarget : target? name value = some (inner, arguments)) :
    ∃ found, Parameters.target (given value) = .ok found ∧ found.target = some inner ∧
      found.arguments = arguments := by
  unfold target? at htarget
  split at htarget
  · split at htarget
    · rename_i found hfound
      obtain ⟨target, hinner, hpair⟩ := Option.map_eq_some_iff.mp htarget
      obtain ⟨rfl, rfl⟩ := Prod.mk.inj hpair
      exact ⟨found, hfound, hinner, rfl⟩
    · cases htarget
  · cases htarget

def extent (value : Option Json) : Nat :=
  value.elim 0 Json.depth

/-- The parameters of a target lie inside those that name it. -/
theorem extent_target?_lt {name inner : String} {value arguments : Option Json}
    (htarget : target? name value = some (inner, arguments)) : extent arguments < extent value := by
  obtain ⟨found, hfound, hinner, rfl⟩ := target?_eq_some htarget
  -- Parameters that are left out name no target.
  have hempty : Parameters.target (.object []) = .ok ⟨none, none, none⟩ := rfl
  have hgiven : ∃ written, value = some written ∧ given value = written := by
    unfold given at hfound ⊢
    split at hfound
    · rw [hempty] at hfound
      obtain rfl := Except.ok.inj hfound
      cases hinner
    · rw [hempty] at hfound
      obtain rfl := Except.ok.inj hfound
      cases hinner
    · exact ⟨_, rfl, rfl⟩
  obtain ⟨written, rfl, hwritten⟩ := hgiven
  rw [hwritten] at hfound
  obtain ⟨hpositive, hinside⟩ := Parameters.depth_arguments_lt hfound
  change extent found.arguments < written.depth
  cases harguments : found.arguments with
  | none => exact hpositive
  | some arguments => exact hinside arguments harguments

/-- Every kind has a depth, and only one. -/
theorem existsUnique_nests (name : String)
    (value : Option Json) : ∃! depth, Nests name value depth := by
  induction hextent : extent value using Nat.strong_induction_on generalizing name value with
  | _ bound ih =>
    cases htarget : target? name value with
    | none =>
      refine ⟨0, .innermost htarget, ?_⟩
      intro depth hdepth
      cases hdepth with
      | innermost _ => rfl
      | around hother _ => simp [htarget] at hother
    | some pair =>
      obtain ⟨inner, arguments⟩ := pair
      have hless : extent arguments < bound := hextent ▸ extent_target?_lt htarget
      obtain ⟨depth, hinner, hunique⟩ := ih _ hless inner arguments rfl
      refine ⟨depth + 1, .around htarget hinner, ?_⟩
      intro other hother
      cases hother with
      | innermost hnone => simp [htarget] at hnone
      | around hsame hdepth =>
        obtain ⟨rfl, rfl⟩ := Prod.mk.inj (Option.some.inj (htarget.symm.trans hsame))
        exact congrArg (· + 1) (hunique _ hdepth)

end Description

namespace Kind

def nesting : Kind → Nat
  | .array _ element | .pointer element => element.nesting + 1
  | _ => 0

theorem nesting_of_element {kind element : Kind} (helement : kind.element? = some element) :
    kind.nesting = element.nesting + 1 := by
  cases kind <;> simp_all [element?, nesting]

theorem nesting_of_leaf {kind : Kind} (hleaf : kind.element? = none) : kind.nesting = 0 := by
  cases kind <;> simp_all [element?, nesting]

end Kind

namespace Description

/-- The target that the parameters of an array or pointer name. -/
theorem target?_of_parameters {name target : String} {value : Option Json} {found : Parameters.Target}
    (hname : name = "Array" ∨ name = "Pointer") (hfound : Parameters.target (given value) = .ok found)
    (htarget : found.target = some target) : target? name value = some (target, found.arguments) := by
  simp [target?, hname, hfound, htarget]

/-- The kind that is read lies as deep as its entry says. -/
theorem nests_of_ofNameWith {fuel : Nat} : ∀ {name : String} {value : Option Json}
    {found : Description},
    ofNameWith fuel name value = .ok found → Nests name value found.kind.nesting := by
  induction fuel with
  | zero => exact fun hfound ↦ by cases hfound
  | succ fuel ih =>
    intro name value found hfound
    rcases ofNameWith_cases hfound with
      ⟨given, target, inner, hname, hgiven, htarget, hinner, helement⟩ | ⟨harray, hpointer, hsimple⟩
    · rw [Kind.nesting_of_element helement]
      exact .around (target?_of_parameters hname hgiven htarget) (ih hinner)
    · rw [Kind.nesting_of_leaf (simple_element hsimple)]
      exact .innermost (by simp [target?, harray, hpointer])

/-- Fuel beyond the depth of the parameters changes nothing. -/
theorem ofNameWith_eq_of_extent_lt {fuel : Nat} : ∀ {more : Nat} {name : String} {value : Option Json},
    extent value < fuel → extent value < more →
      ofNameWith fuel name value = ofNameWith more name value := by
  induction fuel with
  | zero => exact fun hfuel ↦ absurd hfuel (Nat.not_lt_zero _)
  | succ fuel ih =>
    intro more name value hfuel hmore
    obtain ⟨more, rfl⟩ := Nat.exists_eq_succ_of_ne_zero (Nat.ne_of_gt (Nat.zero_lt_of_lt hmore))
    have htarget {given : Parameters.Target} {target : String} (hname : name = "Array" ∨ name = "Pointer")
        (hgiven : parameters name Parameters.target value = .ok given)
        (hsome : given.target = some target) :
        ofNameWith fuel target given.arguments = ofNameWith more target given.arguments := by
      have hless := extent_target?_lt (target?_of_parameters hname (parameters_eq_ok hgiven) hsome)
      exact ih (by omega) (by omega)
    unfold ofNameWith
    split
    · rename_i harray
      cases hgiven : parameters name Parameters.target value with
      | error error => rfl
      | ok given =>
        cases hsome : given.target with
        | none => simp [hsome, bind, Except.bind]
        | some target => simp [hsome, bind, Except.bind, htarget (.inl harray) hgiven hsome]
    · split
      · rename_i hpointer
        cases hgiven : parameters name Parameters.target value with
        | error error => rfl
        | ok given =>
          cases hsome : given.target with
          | none => simp [hsome, bind, Except.bind]
          | some target => simp [hsome, bind, Except.bind, htarget (.inr hpointer) hgiven hsome]
      · rfl

end Description

/-- The name and parameters that an accepted entry gives. -/
theorem Entry.exists_parts {entry : Json} {found : Entry} (hfound : ofJson entry = .ok found) :
    ∃ name value, parts entry = .ok (found.offset, name, value) ∧
      Description.ofName name value = .ok found.description := by
  rw [ofJson_eq] at hfound
  obtain ⟨⟨offset, name, value⟩, hparts, hfound⟩ := exists_of_bind_eq_ok hfound
  obtain ⟨description, hdescription, hfound⟩ := exists_of_bind_eq_ok hfound
  obtain rfl : _ = found := Except.ok.inj hfound
  exact ⟨name, value, hparts, hdescription⟩

/-! ## What one entry appends -/

namespace Arena

/-- The later arena has `depth + 1` fields more: innermost one without a target, then each with the one
before it as its target. Only the last has an offset of its own. -/
structure Appends (before after : Array Field) (depth : Nat) (offset : UInt64) : Prop where
  size : after.size = before.size + (depth + 1)
  kept : ∀ number < before.size, after[number]? = before[number]?
  innermost : ∃ field, after[before.size]? = some field ∧ field.kind.element? = none ∧
    field.target = none
  around : ∀ index < depth, ∃ inner field, after[before.size + index]? = some inner ∧
    inner.offset = 0 ∧ after[before.size + index + 1]? = some field ∧
    field.kind.element? = some inner.kind ∧ field.target = some (before.size + index)
  last : ∃ field, after[before.size + depth]? = some field ∧ field.offset = offset

theorem appends_push (arena : Array Field) {kind : Kind} (hleaf : kind.element? = none)
    (offset : UInt64) :
    Appends arena (arena.push ⟨offset, kind, none⟩) 0 offset where
  size := Array.size_push _
  kept _ hnumber := (Array.getElem?_push_lt hnumber).trans (Array.getElem?_eq_getElem hnumber).symm
  innermost := ⟨_, Array.getElem?_push_size, hleaf, rfl⟩
  around index hindex := absurd hindex (Nat.not_lt_zero index)
  last := ⟨_, Array.getElem?_push_size, rfl⟩

/-- A field goes around the last one. -/
theorem Appends.push {before after : Array Field} {depth : Nat}
    (happends : Appends before after depth 0)
    {inner : Field} (hinner : after[before.size + depth]? = some inner) {kind : Kind}
    (helement : kind.element? = some inner.kind) (offset : UInt64) :
    Appends before (after.push ⟨offset, kind, some (before.size + depth)⟩) (depth + 1) offset := by
  have hsize := happends.size
  have hbelow {number : Nat} (hnumber : number < before.size + (depth + 1)) :
      (after.push ⟨offset, kind, some (before.size + depth)⟩)[number]? = after[number]? := by
    rw [← hsize] at hnumber
    rw [Array.getElem?_push_lt hnumber, Array.getElem?_eq_getElem hnumber]
  have hlast : (after.push ⟨offset, kind, some (before.size + depth)⟩)[before.size + (depth + 1)]? =
      some ⟨offset, kind, some (before.size + depth)⟩ := by
    rw [← hsize]
    exact Array.getElem?_push_size
  constructor
  · rw [Array.size_push, hsize, Nat.add_assoc]
  · intro number hnumber
    rw [hbelow (by omega)]
    exact happends.kept number hnumber
  · rw [hbelow (by omega)]
    exact happends.innermost
  · intro index hindex
    rw [hbelow (by omega)]
    rcases Nat.lt_or_eq_of_le (Nat.lt_succ_iff.mp hindex) with hless | rfl
    · rw [hbelow (by omega)]
      exact happends.around index hless
    · obtain ⟨field, hfield, hoffset⟩ := happends.last
      obtain rfl : inner = field := Option.some.inj (hinner.symm.trans hfield)
      exact ⟨inner, _, hinner, hoffset, hlast, helement, rfl⟩
  · exact ⟨_, hlast, rfl⟩

end Arena

namespace Context

theorem install_appends (outside : Option String) (kind : Kind) : ∀ (offset : UInt64)
    (context : Context),
    (context.install outside kind offset).1.number = context.arena.size + kind.nesting ∧
      Arena.Appends context.arena (context.install outside kind offset).2.arena kind.nesting offset := by
  induction kind using Kind.element_induction with
  | leaf kind hleaf =>
    intro offset context
    obtain ⟨reported, harena, -, -, hinstall⟩ := install_of_leaf hleaf outside offset context
    rw [hinstall, Kind.nesting_of_leaf hleaf]
    simp only [allocate, register_arena, harena]
    exact ⟨rfl, Arena.appends_push _ hleaf offset⟩
  | step kind element helement ih =>
    intro offset context
    obtain ⟨hnumber, happends⟩ := ih 0 context
    have hinner := (install_numbered outside element 0 context).2
    rw [hnumber] at hinner
    have hkind := (install_field outside element 0 context).1
    rw [install_of_element helement, Kind.nesting_of_element helement, hnumber]
    simp only [allocate, register_arena]
    exact ⟨happends.size, happends.push hinner (helement.trans (congrArg some hkind.symm)) offset⟩

end Context

namespace Arena

/-- An array or pointer has its element right before it, and no other field has a target. -/
def Linked (arena : Array Field) : Prop :=
  ∀ number field, arena[number]? = some field →
    (field.kind.element? = none ∧ field.target = none) ∨
    ∃ target inner, number = target + 1 ∧ field.target = some target ∧ arena[target]? = some inner ∧
      field.kind.element? = some inner.kind

theorem linked_empty : Linked #[] := by
  intro number field hfield
  simp at hfield

theorem Linked.appends {before after : Array Field} (hbefore : Linked before) {depth : Nat}
    {offset : UInt64} (happends : Appends before after depth offset) : Linked after := by
  intro number field hfield
  rcases Nat.lt_or_ge number before.size with hless | hge
  · rw [happends.kept number hless] at hfield
    rcases hbefore number field hfield with hleaf | ⟨target, inner, hnumber, htarget, hinner, helement⟩
    · exact .inl hleaf
    · rw [← happends.kept target (by omega)] at hinner
      exact .inr ⟨target, inner, hnumber, htarget, hinner, helement⟩
  · obtain ⟨index, rfl⟩ := Nat.exists_eq_add_of_le hge
    have hbound := (Array.getElem?_eq_some_iff.mp hfield).1
    rw [happends.size] at hbound
    cases index with
    | zero =>
      obtain ⟨found, hfound, hleaf⟩ := happends.innermost
      obtain rfl : found = field := Option.some.inj (hfound.symm.trans hfield)
      exact .inl hleaf
    | succ index =>
      obtain ⟨inner, found, hinner, -, hfound, helement, htarget⟩ := happends.around index (by omega)
      obtain rfl : found = field := Option.some.inj (hfound.symm.trans hfield)
      exact .inr ⟨before.size + index, inner, rfl, htarget, hinner, helement⟩

theorem Linked.wellFormed {arena : Array Field} (harena : Linked arena) : WellFormed arena := by
  intro number field hfield element helement
  rcases harena number field hfield with ⟨hleaf, -⟩ | ⟨target, inner, rfl, htarget, hinner, hkind⟩
  · simp [hleaf] at helement
  · obtain rfl : inner.kind = element := Option.some.inj (hkind.symm.trans helement)
    exact ⟨target, inner, htarget, Nat.lt_succ_self target, hinner, rfl⟩

theorem Appends.extends {before after : Array Field} {depth : Nat} {offset : UInt64}
    (happends : Appends before after depth offset) : Extends before after := by
  intro number field hfield
  rw [happends.kept number (Array.getElem?_eq_some_iff.mp hfield).1]
  exact hfield

end Arena

/-! ## Following targets -/

/-- A question that is answered for an array or pointer from the answer for its element. -/
structure Recursion (α : Type) where
  leaf : Kind → α
  array : Count → α → α
  pointer : α → α

namespace Recursion

variable {α : Type}

def ofKind (question : Recursion α) : Kind → α
  | .array count element => question.array count (question.ofKind element)
  | .pointer element => question.pointer (question.ofKind element)
  | kind => question.leaf kind

/-- A function that answers step by step gives the answers. -/
theorem ofKind_eq {question : Recursion α} {answer : Kind → α}
    (hleaf : ∀ kind, kind.element? = none → question.leaf kind = answer kind)
    (harray : ∀ count element, question.array count (answer element) = answer (.array count element))
    (hpointer : ∀ element, question.pointer (answer element) = answer (.pointer element)) :
    question.ofKind = answer := by
  funext kind
  induction kind with
  | array count element ih => rw [ofKind, ih, harray]
  | pointer element ih => rw [ofKind, ih, hpointer]
  | _ => exact hleaf _ rfl

/-- The answer for the field with a number, from the answer for the field that its target leads to. The
elements that fields hold are not looked at. -/
def follow (question : Recursion α) (arena : Array Field) : Nat → Nat → Option α
  | 0, _ => none
  | fuel + 1, number =>
    arena[number]?.bind fun field ↦
      match field.kind with
      | .array count _ => (field.target.bind (question.follow arena fuel)).map (question.array count)
      | .pointer _ => (field.target.bind (question.follow arena fuel)).map question.pointer
      | kind => some (question.leaf kind)

/-- Targets lead to lesser numbers, so that the answer comes after at most `number + 1` steps. -/
theorem follow_eq_ofKind (question : Recursion α) {arena : Array Field}
    (harena : Arena.WellFormed arena)
    {fuel : Nat} : ∀ {number : Nat} {field : Field}, arena[number]? = some field → number < fuel →
      question.follow arena fuel number = some (question.ofKind field.kind) := by
  induction fuel with
  | zero => exact fun _ hfuel ↦ absurd hfuel (Nat.not_lt_zero _)
  | succ fuel ih =>
    intro number field hfield hfuel
    have hinner {element : Kind} (helement : field.kind.element? = some element) :
        field.target.bind (question.follow arena fuel) = some (question.ofKind element) := by
      obtain ⟨target, inner, htarget, hless, htaken, rfl⟩ := harena number field hfield element helement
      rw [htarget]
      exact ih htaken (by omega)
    rw [follow, hfield, Option.bind_some]
    cases hkind : field.kind with
    | array count element =>
      dsimp only
      rw [hinner (by rw [hkind]; rfl)]
      rfl
    | pointer element =>
      dsimp only
      rw [hinner (by rw [hkind]; rfl)]
      rfl
    | _ => rfl

def types : Recursion (List Code.Part) where
  leaf := Kind.typeParts
  array _ element := [.text "Vec<"] ++ element ++ [.text ">"]
  pointer element := element

theorem ofKind_types : types.ofKind = Kind.typeParts :=
  ofKind_eq (fun _ _ ↦ rfl) (fun _ _ ↦ rfl) fun _ ↦ rfl

def keys (options : Options) : Recursion String where
  leaf := Kind.key options
  array count element := "array_" ++ count.key options ++ "_" ++ element
  pointer element := "ptr_" ++ element

theorem ofKind_keys (options : Options) : (keys options).ofKind = Kind.key options :=
  ofKind_eq (fun _ _ ↦ rfl) (fun _ _ ↦ rfl) fun _ ↦ rfl

/-- The code that decodes a value, with the key that arrays of such values are named after. -/
def decoders (options : Options) (site : Site) : Recursion (String × Code) where
  leaf kind := (kind.key options, kind.decodeCode options site)
  array count element :=
    ((keys options).array count element.1,
      .wrapped [.mention ("parse_array_" ++ element.1)]
        ("(" ++ site.profile ++ ", " ++ site.reader ++ ", offset, " ++
          Kind.countText options site count ++ ")"))
  pointer element :=
    ((keys options).pointer element.1,
      .block []
        [.line ([.text "let offset = "] ++ Kind.callParts site (IntegerType.unsigned .w64).reader [] ++
          [.text ";"]),
         element.2])

theorem ofKind_decoders (options : Options) (site : Site) :
    (decoders options site).ofKind = fun kind ↦ (kind.key options, kind.decodeCode options site) :=
  ofKind_eq (fun _ _ ↦ rfl) (fun _ _ ↦ rfl) fun _ ↦ rfl

def sizes : Recursion (String → String → List Code.Part) where
  leaf kind value offset := kind.sizeParts value offset
  array _ element value offset :=
    [.text (value ++ ".iter().fold(" ++ offset ++ ", |end, item| end.wrapping_add(")] ++
      element "(*item)" "end" ++ [.text (" as u64)).wrapping_sub(" ++ offset ++ ")")]
  pointer _ _ _ := ["8"]

theorem ofKind_sizes : sizes.ofKind = fun kind value offset ↦ kind.sizeParts value offset :=
  ofKind_eq (fun _ _ ↦ rfl) (fun _ _ ↦ rfl) fun _ ↦ rfl

def registrations : Recursion (Kind × (Context → Context)) where
  leaf kind := (kind, Context.register kind)
  array count element :=
    (.array count element.1, fun context ↦ (element.2 context).record (.array count element.1))
  pointer element :=
    (.pointer element.1, fun context ↦
      (element.2 (context.record Kind.word)).record (.pointer element.1))

theorem ofKind_registrations : registrations.ofKind = fun kind ↦ (kind, Context.register kind) :=
  ofKind_eq (fun _ _ ↦ rfl) (fun _ _ ↦ rfl) fun _ ↦ rfl

def sibling? : Count → Option String
  | .fixed _ => none
  | .sibling field => some field

/-- The count field of an array itself, and the one that an array below a kind depends on. -/
def siblings : Recursion (Option String × Option String) where
  leaf _ := (none, none)
  array count element := (sibling? count, element.1.or element.2)
  pointer element := (none, element.1.or element.2)

theorem ofKind_siblings : siblings.ofKind = fun kind ↦
    (match kind with | .array count _ => sibling? count | _ => none, kind.nestedSibling?) := by
  apply ofKind_eq
  · intro kind hleaf
    cases kind with
    | array count element => cases hleaf
    | pointer element => cases hleaf
    | _ => rfl
  · intro count element
    cases element with
    | array inner _ => cases inner <;> rfl
    | _ => rfl
  · intro element
    cases element with
    | array inner _ => cases inner <;> rfl
    | _ => rfl

end Recursion

namespace Context

theorem Linked.resolve {context : Context} (hlinked : Arena.Linked context.arena) (spec : Spec)
    (entry : Json) : Arena.Linked (context.resolve spec entry).2.arena := by
  rcases resolve_cases spec entry context with ⟨error, -, hresolve⟩ | ⟨found, outside, -, hresolve⟩
  · rw [hresolve]
    exact hlinked
  · rw [hresolve]
    exact hlinked.appends (install_appends outside found.description.kind found.offset context).2

theorem Linked.resolveAll (calls : List (Spec × Json)) : ∀ {context : Context},
    Arena.Linked context.arena → Arena.Linked (context.resolveAll calls).arena := by
  induction calls with
  | nil => exact fun hlinked ↦ hlinked
  | cons call rest ih => exact fun hlinked ↦ ih (Linked.resolve hlinked call.1 call.2)

theorem resolve_extends (context : Context) (spec : Spec) (entry : Json) :
    Arena.Extends context.arena (context.resolve spec entry).2.arena := by
  rcases resolve_cases spec entry context with ⟨error, -, hresolve⟩ | ⟨found, outside, -, hresolve⟩
  · rw [hresolve]
    exact .refl _
  · rw [hresolve]
    exact (install_appends outside found.description.kind found.offset context).2.extends

theorem resolveAll_extends (calls : List (Spec × Json)) : ∀ context : Context,
    Arena.Extends context.arena (context.resolveAll calls).arena := by
  induction calls with
  | nil => exact fun context ↦ .refl _
  | cons call rest ih => exact fun context ↦ (resolve_extends context call.1 call.2).trans (ih _)

/-- An entry that is resolved appends as many fields as it has targets below one another, and one. -/
theorem resolve_appends {context : Context} {spec : Spec} {entry : Json} {found : Numbered}
    (hfound : (context.resolve spec entry).1 = .ok found) :
    ∃ offset name value depth, Entry.parts entry = .ok (offset, name, value) ∧
      Description.Nests name value depth ∧ found.number = context.arena.size + depth ∧
      (context.resolve spec entry).2.arena[found.number]? = some found.field ∧
      Arena.Appends context.arena (context.resolve spec entry).2.arena depth offset := by
  rcases resolve_cases spec entry context with
    ⟨error, -, hresolve⟩ | ⟨read, outside, hread, hresolve⟩
  · rw [hresolve] at hfound
    cases hfound
  · rw [hresolve] at hfound ⊢
    obtain rfl : _ = found := Except.ok.inj hfound
    obtain ⟨name, value, hparts, hname⟩ := Entry.exists_parts hread
    obtain ⟨hnumber, happends⟩ := install_appends outside read.description.kind read.offset context
    exact ⟨read.offset, name, value, _, hparts, Description.nests_of_ofNameWith hname, hnumber,
      (install_numbered outside read.description.kind read.offset context).2, happends⟩

/-- Fuel beyond the depth of the parameters does not change what is resolved. -/
theorem resolveNamed_eq_of_depth_lt (spec : Spec) {fuel : Nat} (name : String) {value : Option Json}
    (offset : UInt64) (hfuel : (Description.given value).depth < fuel) :
    resolveNamed spec fuel name value offset =
      resolveNamed spec ((Description.given value).depth + 1) name value offset := by
  have hextent : Description.extent value ≤ (Description.given value).depth := by
    unfold Description.extent Description.given
    split <;> simp [Json.depth]
  funext context
  calc
    (resolveNamed spec fuel name value offset).outcome context =
        settled spec offset context (Description.ofNameWith fuel name value) :=
      outcome_resolveNamed spec fuel name value offset context
    _ = settled spec offset context
        (Description.ofNameWith ((Description.given value).depth + 1) name value) :=
      congrArg _ (Description.ofNameWith_eq_of_extent_lt (by omega) (by omega))
    _ = _ := (outcome_resolveNamed spec _ name value offset context).symm

/-- Entries that are resolved in the context only append to its arena, and what is asked of a field of the
arena keeps its answer. -/
structure AppendOnly (context : Context) : Prop where
  refused : ∀ spec entry error, (context.resolve spec entry).1 = .error error →
    (context.resolve spec entry).2.arena = context.arena
  resolved : ∀ spec entry found, (context.resolve spec entry).1 = .ok found →
    ∃ offset name value depth, Entry.parts entry = .ok (offset, name, value) ∧
      Description.Nests name value depth ∧ found.number = context.arena.size + depth ∧
      (context.resolve spec entry).2.arena[found.number]? = some found.field ∧
      Arena.Appends context.arena (context.resolve spec entry).2.arena depth offset
  linked : Arena.Linked context.arena
  answered : ∀ number field, context.arena[number]? = some field →
    ∀ (later : List (Spec × Json)) {α : Type} (question : Recursion α) (fuel : Nat), number < fuel →
      question.follow (context.resolveAll later).arena fuel number =
        some (question.ofKind field.kind)

theorem appendOnly_of_linked {context : Context} (hlinked : Arena.Linked context.arena) :
    AppendOnly context where
  refused spec entry error herror := by
    rcases resolve_cases spec entry context with ⟨other, -, hresolve⟩ | ⟨found, outside, -, hresolve⟩
    · rw [hresolve]
    · rw [hresolve] at herror
      cases herror
  resolved spec entry found hfound := resolve_appends hfound
  linked := hlinked
  answered number field hfield later _ question fuel hfuel := by
    have hlater := (Linked.resolveAll later hlinked).wellFormed
    exact question.follow_eq_ofKind hlater (resolveAll_extends later context number field hfield) hfuel

/-- After any sequence of entries the arena only grows, in the order of its targets. Every entry has a
depth, more fuel than that changes nothing, and the questions that are asked of fields are those that
the kinds answer. -/
theorem appendOnly_resolveAll (options : Options) (calls : List (Spec × Json)) :
    AppendOnly (resolveAll calls { options }) ∧
    (∀ name value, ∃! depth, Description.Nests name value depth) ∧
    (∀ spec name value offset fuel, (Description.given value).depth < fuel →
      resolveNamed spec fuel name value offset =
        resolveNamed spec ((Description.given value).depth + 1) name value offset) ∧
    Recursion.types.ofKind = Kind.typeParts ∧
    (Recursion.keys options).ofKind = Kind.key options ∧
    (∀ site, (Recursion.decoders options site).ofKind =
      fun kind ↦ (kind.key options, kind.decodeCode options site)) ∧
    (Recursion.sizes.ofKind = fun kind value offset ↦ kind.sizeParts value offset) ∧
    (Recursion.registrations.ofKind = fun kind ↦ (kind, register kind)) ∧
    ∀ kind, (Recursion.siblings.ofKind kind).2 = kind.nestedSibling? := by
  refine ⟨appendOnly_of_linked (Linked.resolveAll calls Arena.linked_empty),
    Description.existsUnique_nests, ?_, Recursion.ofKind_types, Recursion.ofKind_keys options,
    Recursion.ofKind_decoders options, Recursion.ofKind_sizes, Recursion.ofKind_registrations, ?_⟩
  · intro spec name value offset fuel hfuel
    exact resolveNamed_eq_of_depth_lt spec name offset hfuel
  · intro kind
    rw [Recursion.ofKind_siblings]

theorem appendOnly_resolveAll_mixed :
    (resolveAll mixedCalls { options := {} }).arena.size = 4 ∧ ∀ later,
      (Recursion.keys {}).follow ((resolveAll mixedCalls { options := {} }).resolveAll later).arena 2 1 =
        some "array_0_enum_uint64_37ab2a46" := by
  have harray : (resolveAll mixedCalls { options := {} }).arena[1]? =
      some ⟨0, .array (.fixed 0) (.enumeration ⟨.w64, [(1, "one")]⟩), some 0⟩ := by decide +kernel
  have hkey : Kind.key {} (.array (.fixed 0) (.enumeration ⟨.w64, [(1, "one")]⟩)) =
      "array_0_enum_uint64_37ab2a46" := by decide +kernel
  obtain ⟨happend, -, -, -, hkeys, -⟩ := appendOnly_resolveAll {} mixedCalls
  refine ⟨by decide +kernel, fun later ↦ ?_⟩
  rw [happend.answered 1 _ harray later (Recursion.keys {}) 2 (by decide), hkeys, hkey]

end Context

end BinaryLayout
