import BinaryLayout.Proofs.Expressions
import Mathlib

/-!
# Walks over Arrays

The elements of an array start one behind the other, each where the one before it ends, and the size of
a decoded array is the way from its first element to the end of its last. Decoding and measuring find
the same places although they walk apart: decoding measures each element once, and measuring goes over
the decoded elements again. An array of arrays therefore holds what one long array holds.

Both walks are expressions of generated code. They evaluate to the values and sizes that are decoded.
-/

namespace BinaryLayout

namespace Kind

/-- The value is one that can be measured as the kind: arrays hold elements that can be, and a
reference leads to a structure. -/
def Admits : Kind → Value → Prop
  | .array _ element, value => ∃ items, value = .array items ∧ ∀ item ∈ items, element.Admits item
  | .reference _, value => ∃ name offset size, value = .handle name offset size
  | _, _ => True

end Kind

namespace Decoder

theorem steps_eq_append {α σ : Type} (step : σ → α × σ) (count : Nat) :
    ∀ (state : σ) (results : List α),
      steps step count state results = results.reverse ++ steps step count state [] := by
  induction count with
  | zero => simp [steps]
  | succ count ih =>
    intro state results
    rw [steps, steps]
    rcases step state with ⟨result, next⟩
    dsimp only
    rw [ih next (result :: results), ih next [result]]
    simp

def span (decoder : Decoder) (kind : Kind) (offset : UInt64) : UInt64 :=
  decoder.measure kind (decoder.value kind offset) offset

/-- Where the element with the given number starts, if the first starts at `offset`. -/
def elementStart (decoder : Decoder) (element : Kind) (offset : UInt64) : Nat → UInt64
  | 0 => offset
  | index + 1 =>
    decoder.elementStart element offset index +
      decoder.span element (decoder.elementStart element offset index)

def run (decoder : Decoder) (element : Kind) (offset : UInt64) (count : Nat) : List Value :=
  (List.range count).map fun index ↦
    decoder.value element (decoder.elementStart element offset index)

variable (decoder : Decoder) (element : Kind) (offset : UInt64)

/-- Going on from an element is going further from the first. -/
theorem elementStart_add (first second : Nat) :
    decoder.elementStart element offset (first + second) =
      decoder.elementStart element (decoder.elementStart element offset first) second := by
  induction second with
  | zero => rfl
  | succ second ih => rw [← Nat.add_assoc, elementStart, ih, elementStart]

theorem run_add (first second : Nat) : decoder.run element offset (first + second) =
    decoder.run element offset first ++
      decoder.run element (decoder.elementStart element offset first) second := by
  simp only [run, List.range_add, List.map_append, List.map_map]
  refine congrArg _ (List.map_congr_left fun index _ ↦ ?_)
  rw [Function.comp_apply, elementStart_add]

theorem run_succ (count : Nat) : decoder.run element offset (count + 1) =
    decoder.value element offset ::
      decoder.run element (offset + decoder.span element offset) count := by
  rw [Nat.add_comm, run_add]
  rfl

/-- The loop that decodes an array goes from element to element. -/
theorem elements_eq_run (count : Nat) : ∀ offset : UInt64,
    elements (decoder.value element) (decoder.measure element) count offset =
      decoder.run element offset count := by
  induction count with
  | zero => exact fun _ ↦ rfl
  | succ count ih =>
    intro offset
    rw [run_succ, ← ih, elements, steps]
    change steps _ count (offset + decoder.span element offset) [decoder.value element offset] = _
    rw [steps_eq_append]
    rfl

theorem array_eq_run (count : Int) : decoder.array element count offset =
    .array (decoder.run element offset (decoder.clamp count)) := by
  rw [array, elements_eq_run]

/-- The walk that measures an array goes from element to element as well. -/
theorem foldl_measure_run (count : Nat) : ∀ offset : UInt64,
    (decoder.run element offset count).foldl
      (fun stop item ↦ stop + decoder.measure element item stop) offset =
        decoder.elementStart element offset count := by
  induction count with
  | zero => exact fun _ ↦ rfl
  | succ count ih =>
    intro offset
    rw [run_succ, List.foldl_cons]
    refine (ih _).trans ?_
    rw [Nat.add_comm, elementStart_add]
    rfl

theorem measure_array (sizing : Count) (count : Int) :
    decoder.measure (.array sizing element) (decoder.array element count offset) offset =
      decoder.elementStart element offset (decoder.clamp count) - offset := by
  rw [array_eq_run, measure, foldl_measure_run]

theorem span_array (count : Int) : decoder.span (.array (.fixed count) element) offset =
    decoder.elementStart element offset (decoder.clamp count) - offset :=
  decoder.measure_array element offset (.fixed count) count

theorem admits_run {element : Kind} (helement : ∀ offset, element.Admits (decoder.value element offset))
    (sizing : Count) (offset : UInt64) (count : Nat) :
    (Kind.array sizing element).Admits (.array (decoder.run element offset count)) := by
  refine ⟨_, rfl, fun item hitem ↦ ?_⟩
  obtain ⟨index, -, rfl⟩ := List.mem_map.mp hitem
  exact helement _

theorem admits_value (kind : Kind) : ∀ offset, kind.Admits (decoder.value kind offset) := by
  induction kind with
  | array count element ih =>
    intro offset
    cases count with
    | fixed count =>
      have hvalue : decoder.value (.array (.fixed count) element) offset =
          decoder.array element count offset := rfl
      rw [hvalue, array_eq_run]
      exact decoder.admits_run ih _ offset _
    | sibling field => exact ⟨[], rfl, by simp⟩
  | reference target => exact fun offset ↦ ⟨target, offset, decoder.sizeOf target, rfl⟩
  | _ => exact fun _ ↦ trivial

theorem admits_array (sizing : Count) (count : Int) :
    (Kind.array sizing element).Admits (decoder.array element count offset) := by
  rw [array_eq_run]
  exact decoder.admits_run (decoder.admits_value element) sizing offset _

/-- The expression for a size has the measure of the value. The names inside a walk hide those
outside, and what follows the walk sees the outer ones again. -/
theorem eval_sizeExpression (kind : Kind) : ∀ {scope : Scope} {value offset : String} {found : Value}
    {start : UInt64}, kind.Admits found → scope.values.lookup value = some found →
      scope.offsets.lookup offset = some start →
      (kind.sizeExpression value offset).eval decoder scope =
        some (decoder.measure kind found start) := by
  induction kind with
  | text encoding length =>
    intro scope value offset found start _ _ hoffset
    cases length with
    | none => simp [Kind.sizeExpression, SizeExpression.eval, hoffset, measure]
    | some length => simp [Kind.sizeExpression, SizeExpression.eval, measure, textSize]
  | reference target =>
    rintro scope value offset _ start ⟨name, position, size, rfl⟩ hvalue _
    simp [Kind.sizeExpression, SizeExpression.eval, hvalue, measure]
  | array count element ih =>
    rintro scope value offset _ start ⟨items, rfl, hitems⟩ hvalue hoffset
    -- Each round binds the names anew, so the hypothesis for the element needs every scope.
    have hwalk : ∀ (items : List Value) (stop : UInt64), (∀ item ∈ items, element.Admits item) →
        items.foldlM (fun stop item ↦ ((element.sizeExpression "(*item)" "end").eval decoder
            (scope.inside stop item)).map (stop + ·)) stop =
          some (items.foldl (fun stop item ↦ stop + decoder.measure element item stop) stop) := by
      intro items
      induction items with
      | nil => exact fun _ _ ↦ rfl
      | cons item rest ihrest =>
        intro stop hadmits
        have hitem := ih (hadmits item List.mem_cons_self)
          (show (scope.inside stop item).values.lookup "(*item)" = some item from rfl)
          (show (scope.inside stop item).offsets.lookup "end" = some stop from rfl)
        rw [List.foldlM_cons, List.foldl_cons, hitem]
        exact ihrest _ fun other hother ↦ hadmits other (List.mem_cons_of_mem _ hother)
    simp only [Kind.sizeExpression, SizeExpression.eval, hvalue, hoffset, hwalk items start hitems]
    rfl
  | _ =>
    intros
    rfl

/-! ## Evaluation of decoding -/

section

variable {decode : UInt64 → Option Value} {size : Scope → Option UInt64}
  (hdecode : ∀ offset, decode offset = some (decoder.value element offset))
  (hsize : ∀ offset, size ⟨[("value", decoder.value element offset)], [("offset", offset)]⟩ =
    some (decoder.span element offset))
include hdecode hsize

theorem round_eq (found : List Value) : DecodeExpression.round decode size (offset, found) =
    some (offset + decoder.span element offset, found ++ [decoder.value element offset]) := by
  simp [DecodeExpression.round, hdecode, hsize]

/-- The rounds of a loop go from element to element. -/
theorem rounds_eq (count : Nat) : ∀ (offset : UInt64) (found : List Value),
    DecodeExpression.rounds decode size count (offset, found) =
      some (decoder.elementStart element offset count, found ++ decoder.run element offset count) := by
  induction count with
  | zero => simp [DecodeExpression.rounds, elementStart, run]
  | succ count ih =>
    intro offset found
    rw [DecodeExpression.rounds, decoder.round_eq element offset hdecode hsize, Option.bind_some, ih,
      run_succ, Nat.add_comm, elementStart_add, List.append_assoc]
    rfl

theorem loop_eq (count : Int) : DecodeExpression.loop decode size decoder.arrayLimit count offset =
    some (decoder.array element count offset) := by
  have hcount : (max 0 (min count decoder.arrayLimit)).toNat = decoder.clamp count := by
    rw [clamp]
    omega
  rw [DecodeExpression.loop, hcount, decoder.rounds_eq element hdecode hsize, array_eq_run]
  rfl

end

theorem eval_size (element : Kind) (offset : UInt64) :
    (element.sizeExpression "value" "offset").eval decoder
      ⟨[("value", decoder.value element offset)], [("offset", offset)]⟩ =
        some (decoder.span element offset) :=
  decoder.eval_sizeExpression element (decoder.admits_value element offset) rfl rfl

/-- Names that are put into a set where they hold are the names that hold. -/
theorem foldl_insert_eq (value : UInt64) (names : Flags) :
    (names.predicates.foldl (fun names (mask, name) ↦
      if value &&& mask != 0 then Ordered.insert name () names else names) []).map Prod.fst =
        namesOf names value := by
  rw [namesOf, Ordered.ofList, List.foldl_map, List.foldl_filter]

/-- Code without a structure at hand decodes what the kind says. -/
theorem eval_decodeExpression {options : Options} (hlimit : options.arrayLimit = decoder.arrayLimit)
    (kind : Kind) : ∀ (counts : String → Option Int) (offset : UInt64),
      (kind.decodeExpression options .helper).eval decoder counts offset =
        some (decoder.value kind offset) := by
  induction kind with
  | flags names =>
    intro counts offset
    simp only [Kind.decodeExpression, DecodeExpression.eval, foldl_insert_eq, value]
  | array count element ih =>
    intro counts offset
    have hloop (count : Int) := decoder.loop_eq element offset (ih fun _ ↦ none)
      (decoder.eval_size element) count
    cases count with
    | fixed count =>
      have hclamp : decoder.clamp (options.clamp count : Nat) = decoder.clamp count := by
        simp only [clamp, Options.clamp, hlimit]
        omega
      simp only [Kind.decodeExpression, Kind.countExpression, DecodeExpression.eval,
        CountExpression.eval,
        Option.bind_some, hlimit, hloop, array, hclamp, value]
    | sibling field =>
      simp only [Kind.decodeExpression, Kind.countExpression, DecodeExpression.eval,
        CountExpression.eval,
        Option.bind_some, hlimit, hloop, value]
      rfl
  | pointer element ih => exact fun counts offset ↦ ih counts _
  | _ => exact fun _ _ ↦ rfl

/-- An inner array ends where the next one starts. -/
theorem elementStart_array (inner : Int) (index : Nat) :
    decoder.elementStart (.array (.fixed inner) element) offset index =
      decoder.elementStart element offset (index * decoder.clamp inner) := by
  induction index with
  | zero => simp [elementStart]
  | succ index ih =>
    rw [elementStart, ih, span_array, ← elementStart_add, Nat.succ_mul, add_sub_cancel]

/-- The inner arrays one behind the other are one long run. -/
theorem flatMap_items_run (inner : Int) (count : Nat) :
    (decoder.run (.array (.fixed inner) element) offset count).flatMap Value.items =
      decoder.run element offset (count * decoder.clamp inner) := by
  induction count with
  | zero => simp [run]
  | succ count ih =>
    have hlast : decoder.run (.array (.fixed inner) element)
        (decoder.elementStart (.array (.fixed inner) element) offset count) 1 =
          [decoder.array element inner (decoder.elementStart element offset
            (count * decoder.clamp inner))] := by
      rw [elementStart_array]
      rfl
    rw [run_add, List.flatMap_append, ih, hlast, array_eq_run, Nat.succ_mul, run_add]
    simp [Value.items]

theorem clamp_of_le {count : Nat} (hcount : count ≤ decoder.arrayLimit) :
    decoder.clamp count = count := by
  simp [clamp, hcount]

/-- An array has as many elements as its count asks for within the limit, each decoded where the one
before it ends, by the loop that code writes for it. Its size is the way to the end of the last, by the
expression that code writes for that, and an array of arrays is one array cut into pieces. -/
theorem array_walk (decoder : Decoder) (element : Kind) (count : Int) (offset : UInt64) :
    ((decoder.array element count offset).items.length : Int) =
      min (max count 0) decoder.arrayLimit ∧
    (∀ index < (decoder.array element count offset).items.length,
      (decoder.array element count offset).items[index]? =
        some (decoder.value element (decoder.elementStart element offset index))) ∧
    (∀ options : Options, options.arrayLimit = decoder.arrayLimit →
      Helper.arrayCode options element =
        Helper.loopCode options.profile (element.arrayReader options) options.arrayLimit
          element.typeParts ((element.decodeExpression options .helper).code .helper)
          (element.sizeExpression "value" "offset").parts ∧
      DecodeExpression.loop ((element.decodeExpression options .helper).eval decoder fun _ ↦ none)
          ((element.sizeExpression "value" "offset").eval decoder) options.arrayLimit count offset =
        some (decoder.array element count offset)) ∧
    (element.sizeParts "value" "offset" = (element.sizeExpression "value" "offset").parts ∧
      ∀ position, (element.sizeExpression "value" "offset").eval decoder
          ⟨[("value", decoder.value element position)], [("offset", position)]⟩ =
        some (decoder.span element position)) ∧
    (∀ sizing value name,
      (Kind.array sizing element).sizeParts value name =
        ((Kind.array sizing element).sizeExpression value name).parts ∧
      ∀ scope : Scope, scope.values.lookup value = some (decoder.array element count offset) →
        scope.offsets.lookup name = some offset →
        ((Kind.array sizing element).sizeExpression value name).eval decoder scope =
          some (decoder.elementStart element offset
            (decoder.array element count offset).items.length - offset)) ∧
    (∀ inner, decoder.clamp count * decoder.clamp inner ≤ decoder.arrayLimit →
      (decoder.array (.array (.fixed inner) element) count offset).items.flatMap Value.items =
        (decoder.array element (decoder.clamp count * decoder.clamp inner : Nat) offset).items) := by
  have hitems : (decoder.array element count offset).items =
      decoder.run element offset (decoder.clamp count) := by
    rw [array_eq_run, Value.items]
  have hlength : (decoder.array element count offset).items.length = decoder.clamp count := by
    rw [hitems, run, List.length_map, List.length_range]
  refine ⟨?_, ?_, ?_, ⟨Kind.sizeParts_eq_parts _ _ _, decoder.eval_size element⟩, ?_, ?_⟩
  · rw [hlength, clamp]
    omega
  · intro index hindex
    rw [hlength] at hindex
    simp [hitems, run, hindex]
  · intro options hlimit
    refine ⟨Kind.arrayCode_eq_loopCode options element, ?_⟩
    rw [hlimit]
    exact decoder.loop_eq element offset (decoder.eval_decodeExpression hlimit element fun _ ↦ none)
      (decoder.eval_size element) count
  · intro sizing value name
    refine ⟨Kind.sizeParts_eq_parts _ _ _, fun scope hvalue hname ↦ ?_⟩
    rw [hlength, ← measure_array decoder element offset sizing]
    exact decoder.eval_sizeExpression _ (decoder.admits_array element offset sizing count) hvalue hname
  · intro inner hlimit
    rw [array_eq_run, array_eq_run, Value.items, Value.items, flatMap_items_run,
      clamp_of_le decoder hlimit]

def packedTexts : Decoder :=
  ⟨.ofArray #[0x61, 0x62, 0, 0x63, 0, 0, 0x64, 0, 0xFF], 5, 8, fun _ ↦ 0⟩

/-- Two arrays of two texts are the array of the four texts, and take eight bytes. -/
theorem array_walk_packedTexts :
    packedTexts.clamp 2 * packedTexts.clamp 2 ≤ packedTexts.arrayLimit ∧
    (packedTexts.array (.array (.fixed 2) (.text .bytes none)) 2 0).items.flatMap Value.items =
      [.text "ab", .text "c", .text "", .text "d"] ∧
    (packedTexts.array (.text .bytes none) 4 0).items[3]? = some (.text "d") ∧
    DecodeExpression.loop (((Kind.text .bytes none).decodeExpression (Options.withArrayLimit {} 5)
        .helper).eval packedTexts fun _ ↦ none)
      (((Kind.text .bytes none).sizeExpression "value" "offset").eval packedTexts) 5 4 0 =
        some (.array [.text "ab", .text "c", .text "", .text "d"]) ∧
    ((Kind.array (.fixed 4) (.text .bytes none)).sizeExpression "value" "offset").eval packedTexts
      ⟨[("value", packedTexts.array (.text .bytes none) 4 0)], [("offset", 0)]⟩ = some 8 := by
  have hlimit : packedTexts.clamp 2 * packedTexts.clamp 2 ≤ packedTexts.arrayLimit := by decide
  obtain ⟨-, hitem, hloop, -, hsize, -⟩ := array_walk packedTexts (.text .bytes none) 4 0
  obtain ⟨-, -, -, -, -, hnested⟩ := array_walk packedTexts (.text .bytes none) 2 0
  refine ⟨hlimit, (hnested 2 hlimit).trans ?_, (hitem 3 ?_).trans ?_,
    (hloop (Options.withArrayLimit {} 5) rfl).2.trans ?_,
    ((hsize (.fixed 4) "value" "offset").2 _ ?_ ?_).trans ?_⟩
  · rfl
  · decide
  · rfl
  · rfl
  · rfl
  · rfl
  · rfl

end Decoder

end BinaryLayout
