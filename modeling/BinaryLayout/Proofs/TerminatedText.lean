import BinaryLayout.Proofs.SpanLocality

/-!
# Walks over Terminated Texts

A terminated text takes no more bytes than there are, and at least one where there is one. A walk over
such texts therefore neither stops before the end of the content nor goes past it: the spans of enough
texts cover the content once, and behind it every text is empty. Nothing is asked of the content, which
may lack terminators, end inside a unit or hold texts longer than the window.
-/

namespace BinaryLayout

/-- Reads give the bytes of the content, as many as are asked for and there. -/
def Source.Serves (source : Source) (content : List UInt8) : Prop :=
  ∀ (offset : UInt64) (length : Nat),
    (source.read offset length).available = (content.drop offset.toNat).take length

theorem Source.serves_ofArray (content : List UInt8) : (ofArray content.toArray).Serves content := by
  intro offset length
  exact slice_eq_take_drop content.toArray offset.toNat length

/-- The spans from `start index` up to `start (index + 1)` follow one another from `low` to `high`, and
every place between lies in one of them only. -/
structure Tiles (start : Nat → Nat) (count low high : Nat) : Prop where
  first : start 0 = low
  last : start count = high
  ordered : Monotone start
  covered : ∀ place, low ≤ place → place < high →
    ∃! index, index < count ∧ start index ≤ place ∧ place < start (index + 1)

/-- Every place that ordered spans reach lies in one of them only. -/
theorem existsUnique_span {start : Nat → Nat} (hordered : Monotone start) {count place : Nat}
    (hlow : start 0 ≤ place) (hhigh : place < start count) :
    ∃! index, index < count ∧ start index ≤ place ∧ place < start (index + 1) := by
  have hpast : ∃ index, place < start index := ⟨count, hhigh⟩
  obtain ⟨index, hindex⟩ : ∃ index, Nat.find hpast = index + 1 := by
    apply Nat.exists_eq_add_one_of_ne_zero
    intro hzero
    have hfirst := Nat.find_spec hpast
    rw [hzero] at hfirst
    exact Nat.not_lt_of_le hlow hfirst
  have hless : index < count := by
    have hle := Nat.find_min' hpast hhigh
    omega
  have hstart : start index ≤ place := by
    apply Nat.le_of_not_lt
    apply Nat.find_min hpast
    omega
  have hstop : place < start (index + 1) := hindex ▸ Nat.find_spec hpast
  refine ⟨index, ⟨hless, hstart, hstop⟩, ?_⟩
  rintro other ⟨-, hstart', hstop'⟩
  apply Nat.le_antisymm
  · apply Nat.le_of_not_lt
    intro hbehind
    exact Nat.not_lt_of_le hstart' (hstop.trans_le (hordered hbehind))
  · apply Nat.le_of_not_lt
    intro hbefore
    exact Nat.not_lt_of_le hstart (hstop'.trans_le (hordered hbefore))

/-- A walk that goes on from every place before the end, and never past the end, covers all places in as
many steps as there are places. -/
theorem tiles_of_progress {start : Nat → Nat} {count low high : Nat} (hfirst : start 0 = low)
    (hlow : low ≤ high)
    (hstep : ∀ index, start index ≤ high → start index ≤ start (index + 1) ∧ start (index + 1) ≤ high)
    (hprogress : ∀ index, start index < high → start index < start (index + 1))
    (hcount : high - low ≤ count) : Tiles start count low high := by
  have hwithin : ∀ index, start index ≤ high := by
    intro index
    induction index with
    | zero => rwa [hfirst]
    | succ index ih => exact (hstep index ih).2
  -- As long as the end is not reached, each part adds one place at least.
  have hreaches : ∀ index, min (low + index) high ≤ start index := by
    intro index
    induction index with
    | zero => omega
    | succ index ih =>
      by_cases hbefore : start index < high
      · have hfurther := hprogress index hbefore
        omega
      · have hstays := (hstep index (hwithin index)).1
        omega
  have hlast : start count = high := by
    apply Nat.le_antisymm (hwithin count)
    calc
      high = min (low + count) high := by omega
      _ ≤ start count := hreaches count
  have hordered : Monotone start := by
    apply monotone_nat_of_le_succ
    intro index
    exact (hstep index (hwithin index)).1
  refine ⟨hfirst, hlast, hordered, ?_⟩
  intro place hplace hless
  exact existsUnique_span hordered (hfirst.trans_le hplace) (hless.trans_eq hlast.symm)

namespace Decoder

/-! ## Sizes of terminated texts -/

theorem terminatedSize_le_length (encoding : Encoding) (bytes : List UInt8) :
    terminatedSize encoding bytes ≤ bytes.length := by
  unfold terminatedSize
  split
  · exact Nat.min_le_right _ _
  · split
    · exact Nat.min_le_right _ _
    · exact Nat.le_refl _

theorem terminatedSize_eq_zero_iff (encoding : Encoding) (bytes : List UInt8) :
    terminatedSize encoding bytes = 0 ↔ bytes = [] := by
  rw [← List.length_eq_zero_iff]
  unfold terminatedSize
  split
  · omega
  · split <;> omega

@[simp]
theorem textOf_nil (encoding : Encoding) : textOf encoding [] = "" := by
  cases encoding <;> rfl

@[simp]
theorem beforeTerminator_nil (encoding : Encoding) : beforeTerminator encoding [] = [] := by
  cases encoding <;> rfl

section

variable {decoder : Decoder} {content : List UInt8} (hserves : decoder.source.Serves content)

include hserves

theorem bytesAt_eq_take_drop (offset : UInt64) (length : Nat) :
    decoder.bytesAt offset length = (content.drop offset.toNat).take length :=
  hserves offset length

theorem length_bytesAt (offset : UInt64) (length : Nat) :
    (decoder.bytesAt offset length).length = min length (content.length - offset.toNat) := by
  rw [bytesAt_eq_take_drop hserves, List.length_take, List.length_drop]

/-- A size is counted without loss, since the content has fewer bytes than there are offsets. -/
theorem toNat_span_text (hcontent : content.length < UInt64.size) (encoding : Encoding)
    (position : UInt64) : (decoder.span (.text encoding none) position).toNat =
      terminatedSize encoding (decoder.bytesAt position decoder.window) := by
  apply UInt64.toNat_ofNat_of_lt'
  calc
    _ ≤ (decoder.bytesAt position decoder.window).length := terminatedSize_le_length _ _
    _ ≤ content.length := by rw [length_bytesAt hserves]; omega
    _ < UInt64.size := hcontent

/-- A text takes no more bytes than there are. -/
theorem toNat_span_text_le (hcontent : content.length < UInt64.size) (encoding : Encoding)
    (position : UInt64) :
    (decoder.span (.text encoding none) position).toNat ≤ content.length - position.toNat := by
  rw [toNat_span_text hserves hcontent]
  calc
    _ ≤ (decoder.bytesAt position decoder.window).length := terminatedSize_le_length _ _
    _ ≤ content.length - position.toNat := by
      rw [length_bytesAt hserves]
      exact Nat.min_le_right _ _

/-- A text takes a byte where there is one. -/
theorem toNat_span_text_eq_zero_iff (hcontent : content.length < UInt64.size)
    (hwindow : 0 < decoder.window) (encoding : Encoding) (position : UInt64) :
    (decoder.span (.text encoding none) position).toNat = 0 ↔
      content.length - position.toNat = 0 := by
  rw [toNat_span_text hserves hcontent, terminatedSize_eq_zero_iff, ← List.length_eq_zero_iff,
    length_bytesAt hserves]
  omega

/-- Steps that stay within the content do not wrap around. -/
theorem toNat_elementStart_succ (hcontent : content.length < UInt64.size) (encoding : Encoding)
    (offset : UInt64) (index : Nat)
    (hstart : (decoder.elementStart (.text encoding none) offset index).toNat ≤ content.length) :
    (decoder.elementStart (.text encoding none) offset (index + 1)).toNat =
      (decoder.elementStart (.text encoding none) offset index).toNat +
        (decoder.span (.text encoding none)
          (decoder.elementStart (.text encoding none) offset index)).toNat := by
  have hstep := toNat_span_text_le hserves hcontent encoding
    (decoder.elementStart (.text encoding none) offset index)
  rw [elementStart, UInt64.toNat_add]
  apply Nat.mod_eq_of_lt
  change _ < UInt64.size
  omega

theorem toNat_elementStart_le (hcontent : content.length < UInt64.size) (encoding : Encoding)
    {offset : UInt64} (hoffset : offset.toNat ≤ content.length) (index : Nat) :
    (decoder.elementStart (.text encoding none) offset index).toNat ≤ content.length := by
  induction index with
  | zero => exact hoffset
  | succ index ih =>
    have hstep := toNat_span_text_le hserves hcontent encoding
      (decoder.elementStart (.text encoding none) offset index)
    rw [toNat_elementStart_succ hserves hcontent encoding offset index ih]
    omega

/-- The spans of enough texts cover the content from the offset on. -/
theorem tiles_elementStart (hcontent : content.length < UInt64.size) (hwindow : 0 < decoder.window)
    (encoding : Encoding) {offset : UInt64} {count : Nat} (hoffset : offset.toNat ≤ content.length)
    (hcount : content.length - offset.toNat ≤ count) :
    Tiles (fun index ↦ (decoder.elementStart (.text encoding none) offset index).toNat) count
      offset.toNat content.length := by
  have hnext (index : Nat) := toNat_elementStart_succ hserves hcontent encoding offset index
    (toNat_elementStart_le hserves hcontent encoding hoffset index)
  have hsize (index : Nat) := toNat_span_text_le hserves hcontent encoding
    (decoder.elementStart (.text encoding none) offset index)
  apply tiles_of_progress rfl hoffset _ _ hcount
  · intro index hwithin
    have hnext := hnext index
    have hsize := hsize index
    omega
  · intro index hbefore
    have hnext := hnext index
    have hzero := toNat_span_text_eq_zero_iff hserves hcontent hwindow encoding
      (decoder.elementStart (.text encoding none) offset index)
    omega

/-- Behind the content there are only empty texts. -/
theorem value_text_of_length_le (encoding : Encoding) {position : UInt64}
    (hposition : content.length ≤ position.toNat) :
    decoder.value (.text encoding none) position = .text "" := by
  have hnone : decoder.bytesAt position decoder.window = [] := by
    rw [bytesAt_eq_take_drop hserves, List.drop_eq_nil_of_le hposition, List.take_nil]
  simp [value, text, hnone]

end

/-- The element with a number is decoded where the elements before it end. -/
theorem getElem?_items_array (decoder : Decoder) (element : Kind) (count : Int) (offset : UInt64)
    {index : Nat} (hindex : index < decoder.clamp count) :
    (decoder.array element count offset).items[index]? =
      some (decoder.value element (decoder.elementStart element offset index)) := by
  simp [array_eq_run, Value.items, run, hindex]

/-- A terminated text takes no more bytes than there are and none only where there are none. An array
with as many texts as there are bytes takes all of them: its texts lie one behind the other over the
whole rest of the content, and those from its end on are empty. -/
theorem terminated_walk_covers {decoder : Decoder} {content : List UInt8}
    (hserves : decoder.source.Serves content) (hcontent : content.length < UInt64.size)
    (hwindow : 0 < decoder.window) (encoding : Encoding) :
    (∀ position : UInt64, ∃ size, decoder.reportedSize (.text encoding none) position = some size ∧
      size.toNat ≤ content.length - position.toNat ∧
      (size = 0 ↔ content.length - position.toNat = 0)) ∧
    ∀ (offset : UInt64) (count : Int), offset.toNat ≤ content.length →
      content.length - offset.toNat ≤ decoder.clamp count →
      let start := decoder.elementStart (.text encoding none) offset
      let items := (decoder.array (.text encoding none) count offset).items
      (decoder.reportedSize (.array (.fixed count) (.text encoding none)) offset).map UInt64.toNat =
        some (content.length - offset.toNat) ∧
      Tiles (fun index ↦ (start index).toNat) (decoder.clamp count) offset.toNat content.length ∧
      items.length = decoder.clamp count ∧
      ∀ index < decoder.clamp count,
        items[index]? = some (decoder.value (.text encoding none) (start index)) ∧
        (decoder.reportedSize (.text encoding none) (start index)).map UInt64.toNat =
          some ((start (index + 1)).toNat - (start index).toNat) ∧
        (content.length ≤ (start index).toNat →
          ∀ later, index ≤ later → later < decoder.clamp count →
            items[later]? = some (.text "")) := by
  refine ⟨?_, ?_⟩
  · intro position
    refine ⟨_, decoder.reportedSize_eq_span _ position,
      toNat_span_text_le hserves hcontent encoding position, ?_⟩
    rw [← UInt64.toNat_inj]
    exact toNat_span_text_eq_zero_iff hserves hcontent hwindow encoding position
  · intro offset count hoffset hcount start items
    have htiles := tiles_elementStart hserves hcontent hwindow encoding hoffset hcount
    have hlast : (start (decoder.clamp count)).toNat = content.length := htiles.last
    refine ⟨?_, htiles, ?_, ?_⟩
    · have hwithin : offset ≤ start (decoder.clamp count) :=
        UInt64.le_iff_toNat_le.mpr (hoffset.trans_eq hlast.symm)
      rw [reportedSize_eq_span, span_array, Option.map_some, UInt64.toNat_sub_of_le _ _ hwithin, hlast]
    · simp only [items, array_eq_run, Value.items, run, List.length_map, List.length_range]
    · intro index hindex
      refine ⟨decoder.getElem?_items_array _ count offset hindex, ?_, ?_⟩
      · have hnext := toNat_elementStart_succ hserves hcontent encoding offset index
          (toNat_elementStart_le hserves hcontent encoding hoffset index)
        rw [reportedSize_eq_span, Option.map_some, hnext, Nat.add_sub_cancel_left]
      · intro hend later hlater hless
        rw [decoder.getElem?_items_array _ count offset hless]
        apply congrArg
        apply value_text_of_length_le hserves
        exact hend.trans (htiles.ordered hlater)

/-- A text that is cut by the window, one without characters, one that is cut by the end inside its
terminator, and empty ones behind it. -/
theorem terminated_walk_covers_cut :
    let content : List UInt8 := [0x61, 0x62, 0x63, 0, 0, 0x64, 0]
    let decoder : Decoder := ⟨.ofArray content.toArray, 8, 3, fun _ ↦ 0⟩
    let kind : Kind := .text .utf16 none
    (decoder.source.Serves content ∧ content.length - 0 ≤ decoder.clamp 7 ∧
      content.length ≤ (decoder.elementStart kind 0 3).toNat) ∧
      (decoder.reportedSize (.array (.fixed 7) kind) 0).map UInt64.toNat = some 7 ∧
      (decoder.array kind 7 0).items[6]? = some (.text "") := by
  intro content decoder kind
  have hserves : decoder.source.Serves content := Source.serves_ofArray content
  have hcount : content.length - 0 ≤ decoder.clamp 7 := by decide
  have hend : content.length ≤ (decoder.elementStart kind 0 3).toNat := by decide +kernel
  obtain ⟨-, hwalk⟩ := terminated_walk_covers hserves (by decide) (by decide) .utf16
  obtain ⟨hsize, -, -, hitems⟩ := hwalk 0 7 (by decide) hcount
  exact ⟨⟨hserves, hcount, hend⟩, hsize, (hitems 3 (by decide)).2.2 hend 6 (by decide) (by decide)⟩

end Decoder

end BinaryLayout
