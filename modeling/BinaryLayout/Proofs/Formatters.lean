import BinaryLayout.Decode.View
import BinaryLayout.Proofs.ArrayWalk
import BinaryLayout.Proofs.ProfileFidelity

/-!
# Formatters That End

The formatter of a structure calls those of the structures inside it. The call is written without the
trait that it means, so a structure with an accessor of the same name takes it over: its lines may then
be the elements of an array that a pointer leads to, and nothing keeps these from leading back. A profile
that is built has no structure inside itself. So its formatters end unless a path of calls comes back
through such an accessor, and only then.

Whether the formatter of one structure ends can depend on the bytes, since an array may be empty. It ends
exactly if the calls at the offsets that are read do.
-/

namespace BinaryLayout

theorem isSome_mapM {α β : Type} {next : α → Option β} {items : List α} :
    (items.mapM next).isSome ↔ ∀ item ∈ items, (next item).isSome := by
  induction items with
  | nil => simp
  | cons item rest ih =>
    rw [List.mapM_cons, List.forall_mem_cons, ← ih]
    cases next item <;> cases rest.mapM next <;> simp

theorem length_of_mapM {α β : Type} {next : α → Option β} {items : List α} {results : List β}
    (hresults : items.mapM next = some results) : results.length = items.length := by
  induction items generalizing results with
  | nil =>
    obtain rfl : [] = results := by simpa using hresults
    rfl
  | cons item rest ih =>
    rw [List.mapM_cons] at hresults
    cases hitem : next item with
    | none => simp [hitem] at hresults
    | some result =>
      cases hrest : rest.mapM next with
      | none => simp [hitem, hrest] at hresults
      | some others =>
        obtain rfl : result :: others = results := by simpa [hitem, hrest] using hresults
        rw [List.length_cons, List.length_cons, ih hrest]

theorem mapM_congr {α β : Type} {next next' : α → Option β} {items : List α}
    (hsame : ∀ item ∈ items, next item = next' item) : items.mapM next = items.mapM next' := by
  induction items with
  | nil => rfl
  | cons item rest ih =>
    obtain ⟨hitem, hrest⟩ := List.forall_mem_cons.mp hsame
    rw [List.mapM_cons, List.mapM_cons, hitem, ih hrest]

/-- Along a relation that does not lead back, fewer and fewer are reached. -/
theorem ncard_transGen_lt {α : Type} {relation : α → α → Prop} {inner outer : α}
    (hfinite : {inner | ∃ outer, relation inner outer}.Finite) (hrelated : relation inner outer)
    (hself : ¬ Relation.TransGen relation inner inner) :
    {start | Relation.TransGen relation start inner}.ncard <
      {start | Relation.TransGen relation start outer}.ncard := by
  apply Set.ncard_lt_ncard
  · rw [Set.ssubset_iff_of_subset fun start hstart ↦ hstart.tail hrelated]
    exact ⟨inner, .single hrelated, hself⟩
  · apply hfinite.subset
    intro start hstart
    obtain ⟨next, hnext, -⟩ := Relation.TransGen.head'_iff.mp hstart
    exact ⟨next, hnext⟩

/-- A finite relation that leads nowhere back comes to an end. -/
theorem wellFounded_of_transGen {α : Type} {relation : α → α → Prop}
    (hfinite : {inner | ∃ outer, relation inner outer}.Finite)
    (hself : ∀ start, ¬ Relation.TransGen relation start start) : WellFounded relation :=
  Subrelation.wf (fun hrelated ↦ ncard_transGen_lt hfinite hrelated (hself _))
    (InvImage.wf (fun outer ↦ {start | Relation.TransGen relation start outer}.ncard) Nat.lt_wfRel.wf)

/-- A path along either of two relations is one along the first, or takes a step along the second. -/
theorem transGen_or {α : Type} {first second : α → α → Prop} {start stop : α}
    (hpath : Relation.TransGen (fun inner outer ↦ first inner outer ∨ second inner outer) start stop) :
    Relation.TransGen first start stop ∨ ∃ inner outer, second inner outer ∧
      Relation.ReflTransGen (fun inner outer ↦ first inner outer ∨ second inner outer) start inner ∧
      Relation.ReflTransGen (fun inner outer ↦ first inner outer ∨ second inner outer) outer stop := by
  induction hpath with
  | single hstep =>
    rcases hstep with hfirst | hsecond
    · exact .inl (.single hfirst)
    · exact .inr ⟨_, _, hsecond, .refl, .refl⟩
  | tail hpath hstep ih =>
    rcases hstep with hfirst | hsecond
    · rcases ih with hchain | ⟨inner, outer, hsecond, hbefore, hafter⟩
      · exact .inl (hchain.tail hfirst)
      · exact .inr ⟨inner, outer, hsecond, hbefore, hafter.tail (.inl hfirst)⟩
    · exact .inr ⟨_, _, hsecond, hpath.to_reflTransGen, .refl⟩

namespace View

/-! ## Calls of formatters -/

abbrev Place := String × UInt64

/-- What is written takes the texts of the given places, all of them, and nothing else of a formatter. -/
def Takes {α : Type} (places : List Place) (write : Formatter → Option α) : Prop :=
  ∃ combine : List String → α, ∀ nested : Formatter,
    write nested = (places.mapM fun place ↦ nested place.1 place.2).map combine

namespace Takes

variable {α β : Type} {places : List Place} {write : Formatter → Option α}

theorem const (value : α) : Takes [] fun _ ↦ some value :=
  ⟨fun _ ↦ value, fun _ ↦ rfl⟩

theorem single (place : Place) : Takes [place] fun nested ↦ nested place.1 place.2 :=
  ⟨fun texts ↦ texts.headD "", fun nested ↦ by
    cases hplace : nested place.1 place.2 <;> simp [hplace]⟩

theorem map (htakes : Takes places write) (after : α → β) :
    Takes places fun nested ↦ (write nested).map after := by
  obtain ⟨combine, hcombine⟩ := htakes
  refine ⟨after ∘ combine, ?_⟩
  intro nested
  dsimp only
  rw [hcombine, Option.map_map]

theorem mapM {items : List β} {placesOf : β → List Place} {writeOf : Formatter → β → Option α}
    (htakes : ∀ item, Takes (placesOf item) fun nested ↦ writeOf nested item) :
    Takes (items.flatMap placesOf) fun nested ↦ items.mapM (writeOf nested) := by
  induction items with
  | nil => exact const []
  | cons item rest ih =>
    obtain ⟨first, hfirst⟩ := htakes item
    obtain ⟨others, hothers⟩ := ih
    refine ⟨fun texts ↦ first (texts.take (placesOf item).length) ::
      others (texts.drop (placesOf item).length), ?_⟩
    intro nested
    dsimp only at hfirst hothers ⊢
    rw [List.mapM_cons, hfirst, hothers, List.flatMap_cons, List.mapM_append]
    cases hitem : (placesOf item).mapM fun place ↦ nested place.1 place.2 with
    | none => rfl
    | some texts =>
      have hlength := length_of_mapM hitem
      cases hrest : (rest.flatMap placesOf).mapM fun place ↦ nested place.1 place.2 with
      | none => rfl
      | some more => simp [← hlength]

theorem isSome_iff (htakes : Takes places write) (nested : Formatter) :
    (write nested).isSome ↔ ∀ place ∈ places, (nested place.1 place.2).isSome := by
  obtain ⟨combine, hcombine⟩ := htakes
  rw [hcombine, Option.isSome_map, isSome_mapM]

theorem congr (htakes : Takes places write) {nested nested' : Formatter}
    (hsame : ∀ place ∈ places, nested place.1 place.2 = nested' place.1 place.2) :
    write nested = write nested' := by
  obtain ⟨combine, hcombine⟩ := htakes
  rw [hcombine, hcombine, mapM_congr hsame]

end Takes

def inside (view : View) (place : Place) : List Place :=
  if (view.profile.structure? place.1).isSome then [place] else []

/-- The places whose texts a value is written with. -/
def itemCalls (view : View) : Value → List Place
  | .handle name offset _ => view.inside (name, offset)
  | _ => []

/-- The places whose texts the lines of a value are made of: that of the structure, or those of the
elements that its accessors lead to. -/
def lineCalls (view : View) : Value → List Place
  | .handle name offset _ =>
    match view.accessor? name offset "to_string" with
    | none => view.inside (name, offset)
    | some (.handle middle position _) =>
      ((view.accessor? middle position "lines").getD (.array [])).items.flatMap view.itemCalls
    | some _ => []
  | _ => []

def calls (view : View) (place : Place) : List Place :=
  match view.profile.structure? place.1 with
  | none => []
  | some struct => struct.sortedMembers.flatMap fun member ↦
      if Artifact.displayStyle view.profile member.field.kind = .nested then
        view.lineCalls (view.memberValue struct place.2 member)
      else []

theorem takes_textOf (view : View) (name : String) (offset : UInt64) :
    Takes (view.inside (name, offset)) fun nested ↦ view.textOf nested name offset := by
  unfold inside textOf
  split
  · exact .single (name, offset)
  · exact .const ""

theorem takes_lineText (view : View) (value : Value) :
    Takes (view.itemCalls value) fun nested ↦ view.lineText nested value := by
  cases value with
  | handle name offset size => exact view.takes_textOf name offset
  | _ => exact .const _

theorem linesOf_eq_bind (view : View) (nested : Formatter) (value : Value) :
    view.linesOf nested value = (view.invoke nested value "to_string").bind fun text ↦
      (view.invoke nested text "lines").bind fun found ↦ found.items.mapM (view.lineText nested) := by
  simp [linesOf, Artifact.lineMethods, Option.bind_assoc]

theorem invoke_of_accessor {view : View} {name method : String} {offset : UInt64} {found : Value}
    (hfound : view.accessor? name offset method = some found) (nested : Formatter) (size : UInt64) :
    view.invoke nested (.handle name offset size) method = some found := by
  simp [invoke, hfound]

theorem invoke_of_own {view : View} {name : String} {offset : UInt64}
    (hown : view.accessor? name offset "to_string" = none) (nested : Formatter) (size : UInt64) :
    view.invoke nested (.handle name offset size) "to_string" =
      (view.textOf nested name offset).map Value.text := by
  simp [invoke, hown]

theorem invoke_lines (view : View) (nested : Formatter) (name : String) (offset size : UInt64) :
    view.invoke nested (.handle name offset size) "lines" =
      some ((view.accessor? name offset "lines").getD (.array [])) := by
  cases hfound : view.accessor? name offset "lines" <;> simp [invoke, hfound]

/-- The lines of a text are written as they are. -/
theorem bind_invoke_text (view : View) (nested : Formatter) (text : String) :
    ((view.invoke nested (.text text) "lines").bind fun found ↦
      found.items.mapM (view.lineText nested)) = some (lines text) := by
  change ((lines text).map Value.text).mapM (view.lineText nested) = some (lines text)
  induction lines text with
  | nil => rfl
  | cons line rest ih => simp [lineText, Value.display, ih]

theorem takes_linesOf (view : View) (value : Value) :
    Takes (view.lineCalls value) fun nested ↦ view.linesOf nested value := by
  simp only [linesOf_eq_bind]
  cases value with
  | handle name offset size =>
    unfold lineCalls
    dsimp only
    cases htext : view.accessor? name offset "to_string" with
    | none =>
      simp only [invoke_of_own htext, Option.bind_map, Function.comp_def, bind_invoke_text]
      simpa only [Option.map_eq_bind, Function.comp_def] using
        (view.takes_textOf name offset).map lines
    | some text =>
      simp only [invoke_of_accessor htext, Option.bind_some]
      cases text with
      | handle middle position size' =>
        simp only [invoke_lines, Option.bind_some]
        exact .mapM view.takes_lineText
      | text text =>
        simp only [bind_invoke_text]
        exact .const (lines text)
      | _ => exact .const []
  | _ => exact .const []

theorem takes_displayMember (view : View) (struct : Structure) (base : UInt64) (member : Member) :
    Takes (if Artifact.displayStyle view.profile member.field.kind = .nested then
        view.lineCalls (view.memberValue struct base member) else [])
      fun nested ↦ view.displayMember nested struct base member := by
  unfold displayMember
  dsimp only
  cases Artifact.displayStyle view.profile member.field.kind with
  | nested => exact (view.takes_linesOf _).map _
  | _ => exact .const _

theorem takes_format (view : View) (place : Place) :
    Takes (view.calls place) fun nested ↦ view.format nested place.1 place.2 := by
  unfold calls format
  cases view.profile.structure? place.1 with
  | none => exact .const ""
  | some struct => exact (Takes.mapM (view.takes_displayMember struct place.2)).map _

def Calls (view : View) (inner outer : Place) : Prop :=
  inner ∈ view.calls outer

theorem mem_inside {view : View} {place other : Place} :
    other ∈ view.inside place ↔ other = place ∧ (view.profile.structure? place.1).isSome := by
  unfold inside
  split <;> simp_all

theorem structure?_of_mem_itemCalls {view : View} {value : Value} {place : Place}
    (hplace : place ∈ view.itemCalls value) : (view.profile.structure? place.1).isSome := by
  cases value with
  | handle name offset size =>
    obtain ⟨rfl, hsome⟩ := mem_inside.mp hplace
    exact hsome
  | _ => cases hplace

theorem structure?_of_mem_lineCalls {view : View} {value : Value} {place : Place}
    (hplace : place ∈ view.lineCalls value) : (view.profile.structure? place.1).isSome := by
  cases value with
  | handle name offset size =>
    unfold lineCalls at hplace
    dsimp only at hplace
    split at hplace
    · obtain ⟨rfl, hsome⟩ := mem_inside.mp hplace
      exact hsome
    · obtain ⟨item, -, hitem⟩ := List.mem_flatMap.mp hplace
      exact structure?_of_mem_itemCalls hitem
    · cases hplace
  | _ => cases hplace

theorem mem_of_structure?_eq_some {profile : Profile} {name : String} {struct : Structure}
    (hstruct : profile.structure? name = some struct) :
    struct ∈ profile.structures ∧ struct.name = name :=
  ⟨List.mem_of_find?_eq_some hstruct, by simpa using List.find?_some hstruct⟩

theorem exists_target_of_nested {profile : Profile} {kind : Kind}
    (hstyle : Artifact.displayStyle profile kind = .nested) :
    ∃ name target, kind = .reference name ∧ profile.structure? name = some target := by
  cases kind with
  | reference name =>
    change (if (profile.structure? name).isSome then DebugStyle.nested else .skip) = .nested at hstyle
    split at hstyle
    · rename_i hsome
      obtain ⟨target, htarget⟩ := Option.isSome_iff_exists.mp hsome
      exact ⟨name, target, rfl, htarget⟩
    · cases hstyle
  | _ => cases hstyle

theorem calls_iff {view : View} {inner outer : Place} : view.Calls inner outer ↔
    ∃ struct, view.profile.structure? outer.1 = some struct ∧ ∃ member ∈ struct.members,
      Artifact.displayStyle view.profile member.field.kind = .nested ∧
        inner ∈ view.lineCalls (view.memberValue struct outer.2 member) := by
  unfold Calls calls
  cases view.profile.structure? outer.1 with
  | none => simp
  | some struct => simp [Structure.sortedMembers, List.mem_ite_nil_right]

/-- The places that are called for are structures of the profile, at some offset. -/
theorem ncard_called_le (view : View) :
    {inner | ∃ outer, view.Calls inner outer}.Finite ∧
      {inner | ∃ outer, view.Calls inner outer}.ncard ≤ view.depth := by
  have hsubset : {inner | ∃ outer, view.Calls inner outer} ⊆
      ((view.profile.structures.map Structure.name).toFinset : Set String) ×ˢ Set.univ := by
    rintro inner ⟨outer, hcalls⟩
    obtain ⟨struct, -, member, -, -, hlines⟩ := calls_iff.mp hcalls
    obtain ⟨found, hfound⟩ := Option.isSome_iff_exists.mp (structure?_of_mem_lineCalls hlines)
    obtain ⟨hmem, hname⟩ := mem_of_structure?_eq_some hfound
    simpa using ⟨found, hmem, hname⟩
  have hfinite := (Finset.finite_toSet (view.profile.structures.map Structure.name).toFinset).prod
    (Set.finite_univ : (Set.univ : Set UInt64).Finite)
  have hnames := List.toFinset_card_le (view.profile.structures.map Structure.name)
  rw [List.length_map] at hnames
  have hoffsets : Nat.card UInt64 ≤ UInt64.size := by
    have hinjective : Function.Injective UInt64.toFin := fun _ _ hsame ↦ UInt64.toFin_inj.mp hsame
    simpa using Nat.card_le_card_of_injective UInt64.toFin hinjective
  refine ⟨hfinite.subset hsubset, (Set.ncard_le_ncard hsubset hfinite).trans ?_⟩
  rw [Set.ncard_prod, Set.ncard_univ, Set.ncard_coe_finset]
  exact Nat.mul_le_mul hnames hoffsets

/-- A formatter whose calls end needs no more fuel than there are places that it reaches. -/
theorem isSome_displayWith_of_acc {view : View} {place : Place} (hends : Acc view.Calls place) :
    ∀ {fuel : Nat}, {inner | Relation.TransGen view.Calls inner place}.ncard < fuel →
      (view.displayWith fuel place.1 place.2).isSome := by
  induction hends with
  | intro place hinner ih =>
    intro fuel hfuel
    cases fuel with
    | zero => omega
    | succ fuel =>
      apply ((view.takes_format place).isSome_iff _).mpr
      intro inner hcalls
      have hless := ncard_transGen_lt view.ncard_called_le.1 hcalls
        (Cycle.not_transGen_self (hinner inner hcalls))
      exact ih inner hcalls (by omega)

theorem acc_of_isSome_displayWith {view : View} {fuel : Nat} :
    ∀ {place : Place}, (view.displayWith fuel place.1 place.2).isSome → Acc view.Calls place := by
  induction fuel with
  | zero =>
    intro place hsome
    cases hsome
  | succ fuel ih =>
    intro place hsome
    have hinner := ((view.takes_format place).isSome_iff _).mp hsome
    exact Acc.intro place fun inner hcalls ↦ ih (hinner inner hcalls)

/-- The formatter of a structure ends exactly if the calls that it makes do. -/
theorem isSome_display_iff (view : View) (name : String) (base : UInt64) :
    (view.display name base).isSome ↔ Acc view.Calls (name, base) := by
  refine ⟨fun hsome ↦ acc_of_isSome_displayWith hsome, ?_⟩
  intro hends
  apply isSome_displayWith_of_acc hends
  have hcalled : {inner | Relation.TransGen view.Calls inner (name, base)} ⊆
      {inner | ∃ outer, view.Calls inner outer} := by
    intro inner hinner
    obtain ⟨outer, houter, -⟩ := Relation.TransGen.head'_iff.mp hinner
    exact ⟨outer, houter⟩
  have hplaces := Set.ncard_le_ncard hcalled view.ncard_called_le.1
  have hbound := view.ncard_called_le.2
  omega

/-- Fuel that is enough is as good as more. -/
theorem displayWith_succ_of_isSome {view : View} {fuel : Nat} :
    ∀ place : Place, (view.displayWith fuel place.1 place.2).isSome →
      view.displayWith (fuel + 1) place.1 place.2 = view.displayWith fuel place.1 place.2 := by
  induction fuel with
  | zero =>
    intro place hsome
    cases hsome
  | succ fuel ih =>
    intro place hsome
    apply (view.takes_format place).congr
    intro inner hcalls
    exact ih inner (((view.takes_format place).isSome_iff _).mp hsome inner hcalls)

theorem display_eq (view : View) : view.display = view.displayWith (view.depth + 1) := by
  funext name base
  rw [display]

theorem format_displayWith (view : View) (fuel : Nat) (name : String) (base : UInt64) :
    view.format (view.displayWith fuel) name base = view.displayWith (fuel + 1) name base := by
  rw [displayWith]

/-- The texts of structures are those that formatters calling one another write. -/
theorem display_eq_format (view : View) : view.display = view.format view.display := by
  funext name base
  by_cases hsome : (view.display name base).isSome
  · rw [display_eq] at hsome ⊢
    rw [format_displayWith]
    exact (displayWith_succ_of_isSome (name, base) hsome).symm
  · -- A formatter that does not end calls one that does not.
    have hformat : ¬ (view.format view.display name base).isSome := by
      intro hends
      have hinner := ((view.takes_format (name, base)).isSome_iff _).mp hends
      exact hsome ((view.isSome_display_iff name base).mpr (Acc.intro _ fun inner hcalls ↦
        (view.isSome_display_iff _ _).mp (hinner inner hcalls)))
    rw [Option.not_isSome_iff_eq_none.mp hsome, Option.not_isSome_iff_eq_none.mp hformat]

/-- Where formatters end, their calling one another leaves no choice of what they write. -/
theorem eq_of_acc {view : View} {nested nested' : Formatter} (hnested : nested = view.format nested)
    (hnested' : nested' = view.format nested') {place : Place} (hends : Acc view.Calls place) :
    nested place.1 place.2 = nested' place.1 place.2 := by
  induction hends with
  | intro place _ ih =>
    rw [hnested, hnested']
    exact (view.takes_format place).congr fun inner hcalls ↦ ih inner hcalls

end View

def Kind.pointee : Kind → Kind
  | .pointer target => target.pointee
  | kind => kind

namespace Decoder

theorem pointee_of_handle {decoder : Decoder} {kind : Kind} :
    ∀ {offset position size : UInt64} {name : String},
      decoder.value kind offset = .handle name position size → kind.pointee = .reference name := by
  induction kind with
  | pointer target ih => exact fun hvalue ↦ ih hvalue
  | reference target =>
    intro offset position size name hvalue
    cases hvalue
    rfl
  | array count element =>
    cases count <;> exact fun hvalue ↦ by cases hvalue
  | _ => exact fun hvalue ↦ by cases hvalue

theorem exists_of_mem_items {decoder : Decoder} {kind : Kind} {item : Value} :
    ∀ {offset : UInt64}, item ∈ (decoder.value kind offset).items →
      ∃ count element position, kind.pointee = .array count element ∧
        item = decoder.value element position := by
  induction kind with
  | pointer target ih => exact fun hitem ↦ ih hitem
  | array count element =>
    intro offset hitem
    cases count with
    | fixed count =>
      have hvalue : decoder.value (.array (.fixed count) element) offset =
          decoder.array element count offset := rfl
      rw [hvalue, array_eq_run] at hitem
      obtain ⟨index, -, rfl⟩ := List.mem_map.mp hitem
      exact ⟨_, element, _, rfl, rfl⟩
    | sibling field => cases hitem
  | _ => exact fun hitem ↦ by cases hitem

end Decoder

namespace View

theorem pointee_of_memberValue {view : View} {struct : Structure} {base position size : UInt64}
    {member : Member} {name : String}
    (hvalue : view.memberValue struct base member = .handle name position size) :
    member.field.kind.pointee = .reference name := by
  unfold memberValue at hvalue
  dsimp only at hvalue
  split at hvalue
  · cases hvalue
  · exact Decoder.pointee_of_handle hvalue

theorem exists_of_mem_memberValue {view : View} {struct : Structure} {base : UInt64} {member : Member}
    {item : Value} (hitem : item ∈ (view.memberValue struct base member).items) :
    ∃ count element position, member.field.kind.pointee = .array count element ∧
      item = view.decoder.value element position := by
  unfold memberValue at hitem
  dsimp only at hitem
  split at hitem
  · rename_i field element hkind
    rw [Decoder.array_eq_run] at hitem
    obtain ⟨index, -, rfl⟩ := List.mem_map.mp hitem
    exact ⟨_, element, _, by rw [hkind]; rfl, rfl⟩
  · exact Decoder.exists_of_mem_items hitem

theorem accessor?_eq_some {view : View} {name method : String} {base : UInt64} {value : Value}
    (hvalue : view.accessor? name base method = some value) :
    ∃ struct member, view.profile.structure? name = some struct ∧
      struct.accessor? method = some member ∧ value = view.memberValue struct base member := by
  unfold accessor? at hvalue
  cases hstruct : view.profile.structure? name with
  | none => simp [hstruct] at hvalue
  | some struct =>
    cases hmember : struct.accessor? method with
    | none => simp [hstruct, hmember] at hvalue
    | some member =>
      exact ⟨struct, member, rfl, hmember, by simpa [hstruct, hmember] using hvalue.symm⟩

/-- A field of the outer structure is a structure of the profile, and formatted with it. -/
def Shows (profile : Profile) (outer : String) (target : Structure) : Prop :=
  ∃ struct, profile.structure? outer = some struct ∧ ∃ member ∈ struct.members, ∃ name,
    member.field.kind = .reference name ∧ profile.structure? name = some target

def target? (profile : Profile) (kind : Kind) : Option Structure :=
  match kind.pointee with
  | .reference name => profile.structure? name
  | _ => none

/-- The structure whose texts are the lines of another one, where accessors stand in for the methods
that are meant. -/
def diverted? (profile : Profile) (target : Structure) : Option Structure := do
  let text ← target.accessor? "to_string"
  let middle ← target? profile text.field.kind
  let lines ← middle.accessor? "lines"
  match lines.field.kind.pointee with
  | .array _ element => target? profile element
  | _ => none

/-- The formatter of the outer structure calls that of the inner one, which is a field of it. -/
def Direct (profile : Profile) (inner outer : String) : Prop :=
  ∃ target, Shows profile outer target ∧ target.accessor? "to_string" = none ∧ target.name = inner

/-- The formatter of the outer structure calls that of the inner one because a field of it has accessors
that lead there. -/
def Diverted (profile : Profile) (inner outer : String) : Prop :=
  ∃ target found, Shows profile outer target ∧ diverted? profile target = some found ∧
    found.name = inner

def Nested (profile : Profile) (inner outer : String) : Prop :=
  Direct profile inner outer ∨ Diverted profile inner outer

theorem Direct.contains {profile : Profile} {inner outer : String}
    (hdirect : Direct profile inner outer) :
    Cycle.Contains profile.structures outer inner := by
  obtain ⟨target, ⟨struct, hstruct, member, hmember, name, hkind, htarget⟩, -, rfl⟩ := hdirect
  obtain ⟨hmem, hname⟩ := mem_of_structure?_eq_some hstruct
  obtain ⟨hinner, rfl⟩ := mem_of_structure?_eq_some htarget
  exact ⟨List.mem_map_of_mem hinner, struct, hmem, hname, member, hmember, hkind⟩

theorem Nested.mem_names {profile : Profile} {inner outer : String}
    (hnested : Nested profile inner outer) :
    inner ∈ profile.structures.map Structure.name := by
  rcases hnested with hdirect | ⟨target, found, -, hfound, rfl⟩
  · exact hdirect.contains.1
  · unfold diverted? target? at hfound
    simp only [Option.bind_eq_bind, Option.bind_eq_some_iff] at hfound
    obtain ⟨text, -, middle, -, lines, -, hfound⟩ := hfound
    split at hfound
    · split at hfound
      · exact List.mem_map_of_mem (mem_of_structure?_eq_some hfound).1
      · cases hfound
    · cases hfound

/-- A line that accessors lead to is the text of the structure that the kinds of the accessors name. -/
theorem exists_diverted? {view : View} {name middle : String} {offset position size : UInt64}
    {target : Structure} {item : Value} {inner : Place}
    (htarget : view.profile.structure? name = some target)
    (htext : view.accessor? name offset "to_string" = some (.handle middle position size))
    (hitem : item ∈ ((view.accessor? middle position "lines").getD (.array [])).items)
    (hinner : inner ∈ view.itemCalls item) :
    ∃ found, diverted? view.profile target = some found ∧ found.name = inner.1 := by
  obtain ⟨struct, text, hstruct, hmethod, hhandle⟩ := accessor?_eq_some htext
  obtain rfl : target = struct := Option.some.inj (htarget.symm.trans hstruct)
  have hmiddle := pointee_of_memberValue hhandle.symm
  cases hlines : view.accessor? middle position "lines" with
  | none =>
    rw [hlines] at hitem
    cases hitem
  | some value =>
    obtain ⟨between, lines, hbetween, hlinesMethod, rfl⟩ := accessor?_eq_some hlines
    rw [hlines] at hitem
    obtain ⟨count, element, start, harray, rfl⟩ := exists_of_mem_memberValue hitem
    cases helement : view.decoder.value element start with
    | handle last offset size =>
      rw [helement] at hinner
      obtain ⟨rfl, hsome⟩ := mem_inside.mp hinner
      obtain ⟨found, hfound⟩ := Option.isSome_iff_exists.mp hsome
      have hlast := Decoder.pointee_of_handle helement
      refine ⟨found, ?_, (mem_of_structure?_eq_some hfound).2⟩
      simp [diverted?, target?, hmethod, hmiddle, hbetween, hlinesMethod, harray, hlast, hfound]
    | _ =>
      rw [helement] at hinner
      cases hinner

/-- Whatever the bytes are, formatters call one another as the kinds of the fields say. -/
theorem Calls.nested {view : View} {inner outer : Place} (hcalls : view.Calls inner outer) :
    Nested view.profile inner.1 outer.1 := by
  obtain ⟨struct, hstruct, member, hmember, hstyle, hlines⟩ := calls_iff.mp hcalls
  obtain ⟨name, target, hkind, htarget⟩ := exists_target_of_nested hstyle
  have hshows : Shows view.profile outer.1 target :=
    ⟨struct, hstruct, member, hmember, name, hkind, htarget⟩
  have hvalue : view.memberValue struct outer.2 member =
      .handle name (view.position struct member.name outer.2) (view.sizeOf name) := by
    simp only [memberValue, hkind]
    rfl
  rw [hvalue] at hlines
  unfold lineCalls at hlines
  dsimp only at hlines
  split at hlines
  · rename_i hnone
    obtain ⟨rfl, -⟩ := mem_inside.mp hlines
    refine .inl ⟨target, hshows, ?_, (mem_of_structure?_eq_some htarget).2⟩
    cases hown : target.accessor? "to_string" with
    | none => rfl
    | some member => simp [accessor?, htarget, hown] at hnone
  · rename_i middle position size htext
    obtain ⟨item, hitem, hinner⟩ := List.mem_flatMap.mp hlines
    obtain ⟨found, hfound, hname⟩ := exists_diverted? htarget htext hitem hinner
    exact .inr ⟨target, found, hshows, hfound, hname⟩
  · cases hlines

end View

/-- The formatters of a profile that is built end unless accessors lead them back. -/
theorem Profile.wellFounded_nested_iff {options : Options} {spec : Spec} {schema : Schema}
    {profile : Profile} {final : Context}
    (hbuild : (build spec schema).run.run { options } = (.ok profile, final)) :
    WellFounded (View.Nested profile) ↔ ∀ inner outer, View.Diverted profile inner outer →
      ¬ Relation.ReflTransGen (View.Nested profile) outer inner := by
  obtain ⟨structs, hsuccess⟩ := build_ok hbuild
  have hnone : Cycle.find? profile.structures = none := by
    rw [hsuccess.profile]
    exact hsuccess.compatible.acyclic
  have hends := Cycle.wellFounded_of_find? hsuccess.nodup_structures hnone
  constructor
  · intro hnested inner outer hdiverted hback
    exact Cycle.not_transGen_self (hnested.apply inner) (.head' (.inr hdiverted) hback)
  · intro hdiverted
    apply wellFounded_of_transGen
    · apply ((profile.structures.map Structure.name).toFinset.finite_toSet).subset
      rintro inner ⟨outer, hnested⟩
      exact List.mem_toFinset.mpr hnested.mem_names
    · intro name hcycle
      rcases transGen_or hcycle with hdirect | ⟨inner, outer, hstep, hbefore, hafter⟩
      · have hcontains : Relation.TransGen (fun inner outer ↦
            Cycle.Contains profile.structures outer inner) name name :=
          Relation.TransGen.mono (fun _ _ hstep ↦ hstep.contains) _ _ hdirect
        exact Cycle.not_transGen_self (hends.apply name) hcontains
      · exact hdiverted inner outer hstep (hafter.trans hbefore)

namespace Cycle

/-- A cycle is reported exactly if a structure contains itself, and the report is a cycle. The search
ends as it would without fuel. The formatters of a profile that is built end, and then write what they
must, unless a structure inside another one has accessors that stand in for the methods of its text and
lead back. -/
theorem isSome_find?_iff_transGen {structures : List Structure}
    (hnames : (structures.map Structure.name).Nodup) :
    ((find? structures).isSome ↔ ∃ name, Relation.TransGen (Contains structures) name name) ∧
    (∀ cycle, find? structures = some cycle → IsCycle (Contains structures) cycle ∧
      (BuildError.structureCycle cycle).message =
        "structure cycle without pointer indirection: " ++ String.intercalate " -> " cycle) ∧
    (∀ fuel, structures.length < fuel →
      Search (edges structures) [] [] (starts structures)
        ((starts structures).foldlM (visit (edges structures) fuel []) [])) ∧
    (∀ result, Search (edges structures) [] [] (starts structures) result →
      ∀ cycle, find? structures = some cycle ↔ result = .error cycle) ∧
    ∀ (options : Options) (spec : Spec) (schema : Schema) (profile : Profile) (final : Context),
      (Profile.build spec schema).run.run { options } = (.ok profile, final) →
      (WellFounded (View.Nested profile) ↔ ∀ inner outer, View.Diverted profile inner outer →
        ¬ Relation.ReflTransGen (View.Nested profile) outer inner) ∧
      ∀ view : View, view.profile = profile →
        (∀ inner outer, view.Calls inner outer → View.Nested profile inner.1 outer.1) ∧
        (∀ name base, (view.display name base).isSome ↔ Acc view.Calls (name, base)) ∧
        (WellFounded (View.Nested profile) → ∀ name base, (view.display name base).isSome) ∧
        view.display = view.format view.display ∧
        ∀ nested, nested = view.format nested → ∀ name base, Acc view.Calls (name, base) →
          nested name base = view.display name base := by
  refine ⟨⟨?_, ?_⟩, ?_, ?_, ?_, ?_⟩
  · intro hsome
    obtain ⟨cycle, hcycle⟩ := Option.isSome_iff_exists.mp hsome
    exact (isCycle_of_find? hnames hcycle).transGen
  · rintro ⟨name, hcycle⟩
    rw [Option.isSome_iff_ne_none]
    intro hnone
    exact not_transGen_self ((wellFounded_of_find? hnames hnone).apply name)
      (Relation.transGen_swap.mpr hcycle)
  · intro cycle hcycle
    exact ⟨isCycle_of_find? hnames hcycle, rfl⟩
  · intro fuel hfuel
    exact search_foldlM List.nodup_nil (List.nil_subset _) (by simpa [edges] using hfuel) _ _
  · intro result hresult cycle
    rw [find?_eq_some_iff, (search_outcome structures).unique hresult]
  · intro options spec schema profile final hbuild
    refine ⟨Profile.wellFounded_nested_iff hbuild, ?_⟩
    rintro view rfl
    refine ⟨fun _ _ ↦ View.Calls.nested, view.isSome_display_iff, ?_, view.display_eq_format, ?_⟩
    · intro hends name base
      have hcalls : WellFounded view.Calls :=
        Subrelation.wf View.Calls.nested (InvImage.wf Prod.fst hends)
      exact (view.isSome_display_iff name base).mpr (hcalls.apply (name, base))
    · intro nested hnested name base hplace
      exact View.eq_of_acc hnested view.display_eq_format hplace

def mutualPair : List Structure :=
  [⟨"A", "_A", 8, [⟨⟨0, ⟨0, .reference "B", none⟩⟩, "inner"⟩]⟩,
   ⟨"B", "_B", 8, [⟨⟨1, ⟨0, .reference "A", none⟩⟩, "outer"⟩]⟩]

theorem isSome_find?_iff_transGen_mutual :
    (mutualPair.map Structure.name).Nodup ∧
    (∃ cycle, find? mutualPair = some cycle ∧ IsCycle (Contains mutualPair) cycle) ∧
    ∃ final, (Profile.build Artifact.fileSpec Artifact.fileSchema).run.run { options := {} } =
        (.ok ⟨"Profile", Profile.sorted [Artifact.fileStructure]⟩, final) ∧
      ∀ source, ((View.ofProfile {} ⟨"Profile", Profile.sorted [Artifact.fileStructure]⟩ source).display
        "File" 0).isSome := by
  have hnames : (mutualPair.map Structure.name).Nodup := by decide +kernel
  have hinner : Contains mutualPair "A" "B" :=
    ⟨by decide +kernel, _, .head _, rfl, _, .head _, rfl⟩
  have houter : Contains mutualPair "B" "A" :=
    ⟨by decide +kernel, _, .tail _ (.head _), rfl, _, .head _, rfl⟩
  obtain ⟨hexact, hreport, -, -, hformat⟩ := isSome_find?_iff_transGen hnames
  obtain ⟨cycle, hcycle⟩ := Option.isSome_iff_exists.mp
    (hexact.mpr ⟨"A", .tail (.single hinner) houter⟩)
  obtain ⟨final, hbuild, -⟩ := Artifact.outcome_fileSchema
  obtain ⟨hends, hviews⟩ := hformat {} _ _ _ final hbuild
  refine ⟨hnames, ⟨cycle, hcycle, (hreport cycle hcycle).1⟩, final, hbuild, fun source ↦ ?_⟩
  obtain ⟨-, -, hdisplay, -⟩ := hviews (.ofProfile {} _ source) rfl
  refine hdisplay (hends.mpr ?_) "File" 0
  rintro inner outer ⟨target, found, ⟨struct, hstruct, member, hmember, name, hkind, -⟩, -⟩
  -- Neither field of the file is a structure.
  obtain ⟨hmem, -⟩ := View.mem_of_structure?_eq_some hstruct
  obtain rfl := List.mem_singleton.mp (List.mem_mergeSort.mp hmem)
  rcases List.mem_pair.mp hmember with rfl | rfl <;> cases hkind

/-- A structure inside another one, with the accessors `to_string` and `lines` of its own. -/
def divertedSchema : Schema :=
  ⟨[("S", .array [.number (.natural 8), .object
      [("a", .array [.number (.natural 0), .array [.string "T"]])]]),
    ("T", .array [.number (.natural 8), .object
      [("to_string", .array [.number (.natural 0), .array [.string "Pointer",
        .object [("target", .string "T")]]]),
       ("lines", .array [.number (.natural 0), .array [.string "Array",
        .object [("count", .number (.natural 1)), ("target", .string "S")]]])]])]⟩

def divertedSpec : Spec :=
  { profile := "Profile", structs := ["S", "T"], debug := true }

def divertedOptions : Options :=
  .ofSpec divertedSpec

def textMember : Member :=
  ⟨⟨2, ⟨0, .pointer (.reference "T"), some 1⟩⟩, "to_string"⟩

def linesMember : Member :=
  ⟨⟨4, ⟨0, .array (.fixed 1) (.reference "S"), some 3⟩⟩, "lines"⟩

def divertingStructure : Structure :=
  ⟨"T", "T", 8, [textMember, linesMember]⟩

def divertedProfile : Profile :=
  ⟨"Profile", [⟨"S", "S", 8, [⟨⟨0, ⟨0, .reference "T", none⟩⟩, "a"⟩]⟩, divertingStructure]⟩

theorem sorted_diverted : Profile.sorted divertedProfile.structures = divertedProfile.structures :=
  List.mergeSort_of_pairwise (by decide +kernel)

theorem compatible_diverted : Profile.Compatible divertedProfile.structures where
  offsets := by
    rw [sorted_diverted]
    decide +kernel
  acyclic := by
    rw [sorted_diverted]
    apply find?_eq_none_of_rank (by decide +kernel) fun name ↦ if name = "S" then 1 else 0
    rintro outer inner ⟨-, struct, hstruct, rfl, member, hmember, hkind⟩
    rcases List.mem_pair.mp hstruct with rfl | rfl
    · obtain rfl := List.mem_singleton.mp hmember
      cases hkind
      decide
    · rcases List.mem_pair.mp hmember with rfl | rfl <;> cases hkind

theorem exists_build_divertedSchema : ∃ final,
    (Profile.build divertedSpec divertedSchema).run.run { options := divertedOptions } =
      (.ok divertedProfile, final) := by
  have hnames : divertedSchema.sortedNames = ["S", "T"] :=
    List.mergeSort_of_pairwise (by decide +kernel)
  have hstructs : ((Profile.buildStructures divertedSpec divertedSchema divertedOptions.profile []
      ["S", "T"]).outcome (Profile.start divertedOptions divertedSpec divertedSchema)).1.toOption =
        some divertedProfile.structures := by decide +kernel
  have hbuild := Profile.outcome_build_of_names (by decide +kernel) hnames hstructs compatible_diverted
  rw [sorted_diverted] at hbuild
  exact ⟨_, hbuild⟩

theorem accessor?_diverted {name : String} {member : Member}
    (hmember : divertingStructure.accessor? name = some member) (source : Source) (base : UInt64) :
    (View.ofProfile divertedOptions divertedProfile source).accessor? "T" base name =
      some ((View.ofProfile divertedOptions divertedProfile source).memberValue
        divertingStructure base member) := by
  have hstruct : divertedProfile.structure? "T" = some divertingStructure := rfl
  simp [View.accessor?, View.ofProfile, hstruct, hmember]

/-- The lines of the field are the texts of what has the field. -/
theorem exists_calls_diverted (source : Source) (base : UInt64) : ∃ next,
    (View.ofProfile divertedOptions divertedProfile source).Calls ("S", next) ("S", base) := by
  have hstyle : Artifact.displayStyle divertedProfile (.reference "T") = .nested := by decide +kernel
  have htext : divertingStructure.accessor? "to_string" = some textMember := by decide +kernel
  have hlines : divertingStructure.accessor? "lines" = some linesMember := by decide +kernel
  apply Exists.intro
  refine View.calls_iff.mpr ⟨_, rfl, _, .head _, hstyle, ?_⟩
  unfold View.lineCalls
  dsimp only [View.memberValue, Decoder.value]
  rw [accessor?_diverted htext]
  dsimp only [View.memberValue, Decoder.value, textMember]
  rw [accessor?_diverted hlines]
  exact List.mem_flatMap.mpr ⟨_, .head _, View.mem_inside.mpr ⟨rfl, rfl⟩⟩

/-- The formatter of a profile that is built may not end. -/
theorem display_diverted_eq_none : ∃ final,
    (Profile.build divertedSpec divertedSchema).run.run { options := divertedOptions } =
      (.ok divertedProfile, final) ∧
    ∀ source base,
      (View.ofProfile divertedOptions divertedProfile source).display "S" base = none := by
  obtain ⟨final, hbuild⟩ := exists_build_divertedSchema
  refine ⟨final, hbuild, fun source base ↦ ?_⟩
  rw [← Option.not_isSome_iff_eq_none, View.isSome_display_iff]
  intro hends
  generalize hplace : ("S", base) = place at hends
  induction hends generalizing base with
  | intro place _ ih =>
    subst hplace
    obtain ⟨next, hcalls⟩ := exists_calls_diverted source base
    exact ih _ hcalls next rfl

end Cycle

end BinaryLayout
