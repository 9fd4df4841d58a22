import BinaryLayout.Proofs.PageStores
import Mathlib

/-!
# Coherence of the Page Cache

Every page that the cache keeps is the part of the content that its number stands for, short only
where the content ends. Fills, hits and evictions keep this, so a read through the cache gives the
bytes that a read of the content gives. The loop over the pages is watched copy by copy, since what it
does to the caller's buffer and which sums it forms do not show in the bytes alone.

This module does not say which pages are kept.
-/

namespace BinaryLayout

@[simp]
theorem Reply.written_behind (bytes : List UInt8) (reply : Reply) :
    (reply.behind bytes).written = bytes ++ reply.written := by
  cases reply <;> rfl

theorem slice_eq_take_drop (content : Array UInt8) (offset length : Nat) :
    slice content offset length = (content.toList.drop offset).take length := by
  unfold slice
  split
  · rw [Array.toList_extract, List.extract_eq_take_drop, Nat.add_sub_cancel_left]
  · rename_i hpast
    rw [List.drop_eq_nil_of_le (by simpa using hpast), List.take_nil]

theorem length_slice (content : Array UInt8) (offset length : Nat) :
    (slice content offset length).length = min length (content.size - offset) := by
  simp [slice_eq_take_drop]

theorem slice_eq_nil (content : Array UInt8) {offset : Nat} (length : Nat)
    (hpast : content.size ≤ offset) : slice content offset length = [] := by
  rw [slice, if_neg (by omega)]

/-- A slice of a slice is a slice of the whole. -/
theorem take_drop_slice (content : Array UInt8) (offset length within wanted : Nat) :
    ((slice content offset length).drop within).take wanted =
      slice content (offset + within) (min (length - within) wanted) := by
  rw [slice_eq_take_drop, slice_eq_take_drop, List.drop_take, List.take_take, List.drop_drop,
    Nat.min_comm]

theorem slice_append (content : Array UInt8) (offset first second : Nat) :
    slice content offset first ++ slice content (offset + first) second =
      slice content offset (first + second) := by
  simp only [slice_eq_take_drop]
  rw [← List.drop_drop, List.take_add]

/-- Asking for more than there is gives no more. -/
theorem slice_eq_of_length_lt (content : Array UInt8) {offset short long : Nat}
    (hle : short ≤ long) (hlt : (slice content offset short).length < short) :
    slice content offset short = slice content offset long := by
  rw [length_slice] at hlt
  obtain ⟨rest, rfl⟩ := Nat.exists_eq_add_of_le hle
  rw [← slice_append, slice_eq_nil content rest (by omega), List.append_nil]

namespace Pages

variable {σ : Type} {pageSize : Nat} {part : Part σ}

section Round

variable {rounds position wanted : Nat} {state next : σ}

theorem readFrom_of_ends (hends : wanted = 0 ∨ UInt64.size ≤ position) :
    readFrom pageSize part (rounds + 1) position wanted state = (.done [], state) := by
  simp [readFrom, hends]

theorem readFrom_of_error {fault : Fault} (hsome : 0 < wanted) (hposition : position < UInt64.size)
    (hpart : part state (position / pageSize) (position % pageSize) wanted = (.error fault, next)) :
    readFrom pageSize part (rounds + 1) position wanted state = (.failed fault [], next) := by
  have hgoes : ¬(wanted = 0 ∨ UInt64.size ≤ position) := by omega
  simp only [readFrom, if_neg hgoes, hpart]

theorem readFrom_of_short {piece : List UInt8} (hsome : 0 < wanted)
    (hposition : position < UInt64.size)
    (hpart : part state (position / pageSize) (position % pageSize) wanted = (.ok piece, next))
    (hshort : piece.length = 0 ∨ position % pageSize + piece.length < pageSize) :
    readFrom pageSize part (rounds + 1) position wanted state = (.done piece, next) := by
  have hgoes : ¬(wanted = 0 ∨ UInt64.size ≤ position) := by omega
  have hstops : piece.isEmpty ∨ position % pageSize + piece.length < pageSize := by
    simpa [List.isEmpty_iff] using hshort
  simp only [readFrom, if_neg hgoes, hpart, if_pos hstops]

theorem readFrom_of_full {piece : List UInt8} (hsome : 0 < wanted)
    (hposition : position < UInt64.size)
    (hpart : part state (position / pageSize) (position % pageSize) wanted = (.ok piece, next))
    (hpositive : 0 < piece.length) (hfull : pageSize ≤ position % pageSize + piece.length) :
    readFrom pageSize part (rounds + 1) position wanted state =
      ((readFrom pageSize part rounds (position + piece.length) (wanted - piece.length)
          next).1.behind piece,
        (readFrom pageSize part rounds (position + piece.length) (wanted - piece.length) next).2) := by
  have hgoes : ¬(wanted = 0 ∨ UInt64.size ≤ position) := by omega
  have hturns : ¬(piece.isEmpty ∨ position % pageSize + piece.length < pageSize) := by
    rw [List.isEmpty_iff, ← List.length_eq_zero_iff]
    omega
  simp only [readFrom, if_neg hgoes, hpart, if_neg hturns]

/-- The ways in which one round of the loop can go. -/
theorem round_cases (pageSize : Nat) (part : Part σ) (position wanted : Nat) (state : σ) :
    (wanted = 0 ∨ UInt64.size ≤ position) ∨
    (0 < wanted ∧ position < UInt64.size ∧ ∃ next,
      ((∃ fault, part state (position / pageSize) (position % pageSize) wanted =
        (.error fault, next)) ∨
      (∃ piece, part state (position / pageSize) (position % pageSize) wanted = (.ok piece, next) ∧
        (piece.length = 0 ∨ position % pageSize + piece.length < pageSize)) ∨
      (∃ piece, part state (position / pageSize) (position % pageSize) wanted = (.ok piece, next) ∧
        0 < piece.length ∧ pageSize ≤ position % pageSize + piece.length))) := by
  by_cases hends : wanted = 0 ∨ UInt64.size ≤ position
  · exact .inl hends
  · refine .inr ⟨by omega, by omega, ?_⟩
    cases part state (position / pageSize) (position % pageSize) wanted with
    | mk outcome next =>
      refine ⟨next, ?_⟩
      cases outcome with
      | error fault => exact .inl ⟨fault, rfl⟩
      | ok piece =>
        by_cases hshort : piece.length = 0 ∨ position % pageSize + piece.length < pageSize
        · exact .inr (.inl ⟨piece, rfl, hshort⟩)
        · exact .inr (.inr ⟨piece, rfl, by omega, by omega⟩)

end Round

/-- The parts that come out are those of the content, as long as the state satisfies an invariant,
which they keep. -/
structure Faithful (pageSize : Nat) (content : Array UInt8) (invariant : σ → Prop) (part : Part σ) :
    Prop where
  keeps : ∀ {state next : σ} {position wanted : Nat} {outcome : Except Fault (List UInt8)},
    invariant state → position < UInt64.size →
    part state (position / pageSize) (position % pageSize) wanted = (outcome, next) →
    invariant next
  gives : ∀ {state next : σ} {position wanted : Nat} {piece : List UInt8},
    invariant state → position < UInt64.size →
    part state (position / pageSize) (position % pageSize) wanted = (.ok piece, next) →
    piece = slice content position (min (pageSize - position % pageSize) wanted)

variable {content : Array UInt8} {invariant : σ → Prop}

/-- A whole read keeps the invariant, also one that fails on its way. -/
theorem Faithful.readFrom_keeps (hpart : Faithful pageSize content invariant part)
    (rounds : Nat) : ∀ (position wanted : Nat) (state : σ), invariant state →
      invariant (readFrom pageSize part rounds position wanted state).2 := by
  induction rounds with
  | zero => intro position wanted state hstate; exact hstate
  | succ rounds ih =>
    intro position wanted state hstate
    rcases round_cases pageSize part position wanted state with
      hends | ⟨hsome, hposition, next, ⟨fault, hnext⟩ | ⟨piece, hnext, hshort⟩ |
        ⟨piece, hnext, hpositive, hfull⟩⟩
    · rwa [readFrom_of_ends hends]
    · rw [readFrom_of_error hsome hposition hnext]
      exact hpart.keeps hstate hposition hnext
    · rw [readFrom_of_short hsome hposition hnext hshort]
      exact hpart.keeps hstate hposition hnext
    · rw [readFrom_of_full hsome hposition hnext hpositive hfull]
      exact ih _ _ _ (hpart.keeps hstate hposition hnext)

/-- A page that is not read to its end holds all that is wanted, or the content ends in it. -/
theorem slice_eq_of_short {position wanted : Nat} {piece : List UInt8} (hpage : 0 < pageSize)
    (hpiece : piece = slice content position (min (pageSize - position % pageSize) wanted))
    (hshort : piece.length = 0 ∨ position % pageSize + piece.length < pageSize) :
    piece = slice content position wanted := by
  have hwithin : position % pageSize < pageSize := Nat.mod_lt _ hpage
  by_cases hall : wanted ≤ pageSize - position % pageSize
  · rwa [Nat.min_eq_right hall] at hpiece
  · rw [Nat.min_eq_left (by omega)] at hpiece
    rw [hpiece]
    apply slice_eq_of_length_lt content (by omega)
    rw [← hpiece]
    omega

/-- What a read gives when it succeeds is what the content holds there. -/
theorem Faithful.readFrom_gives (hpart : Faithful pageSize content invariant part)
    (hpage : 0 < pageSize) (hcontent : content.size ≤ UInt64.size) (rounds : Nat) :
    ∀ (position wanted : Nat) (state : σ) (bytes : List UInt8), invariant state →
      wanted ≤ rounds → (readFrom pageSize part rounds position wanted state).1 = .done bytes →
      bytes = slice content position wanted := by
  induction rounds with
  | zero =>
    intro position wanted state bytes _ hwanted hdone
    obtain rfl : wanted = 0 := by omega
    obtain rfl : [] = bytes := by simpa [readFrom] using hdone
    simp [slice_eq_take_drop]
  | succ rounds ih =>
    intro position wanted state bytes hstate hwanted hdone
    rcases round_cases pageSize part position wanted state with
      hends | ⟨hsome, hposition, next, ⟨fault, hnext⟩ | ⟨piece, hnext, hshort⟩ |
        ⟨piece, hnext, hpositive, hfull⟩⟩
    · obtain rfl : [] = bytes := by simpa [readFrom_of_ends hends] using hdone
      rcases hends with rfl | hpast
      · simp [slice_eq_take_drop]
      · rw [slice_eq_nil content wanted (by omega)]
    · simp [readFrom_of_error hsome hposition hnext] at hdone
    · obtain rfl : piece = bytes := by
        simpa [readFrom_of_short hsome hposition hnext hshort] using hdone
      exact slice_eq_of_short hpage (hpart.gives hstate hposition hnext) hshort
    · rw [readFrom_of_full hsome hposition hnext hpositive hfull] at hdone
      cases hrest : (readFrom pageSize part rounds (position + piece.length)
          (wanted - piece.length) next).1 with
      | failed fault written => simp [hrest, Reply.behind] at hdone
      | done rest =>
        have hkept := hpart.keeps hstate hposition hnext
        have hpiece := hpart.gives hstate hposition hnext
        have hlength := congrArg List.length hpiece
        rw [length_slice] at hlength
        calc
          bytes = piece ++ rest := by simpa [hrest, Reply.behind] using hdone.symm
          _ = slice content position piece.length ++
              slice content (position + piece.length) (wanted - piece.length) := by
            rw [ih _ _ _ _ hkept (by omega) hrest]
            congr 1
            rw [show piece.length = min (pageSize - position % pageSize) wanted by omega]
            exact hpiece
          _ = slice content position wanted := by
            rw [slice_append, Nat.add_sub_cancel' (by omega)]

/-! ## Copies into the buffer -/

/-- One copy out of a page: from which page and which place in it, to which place of the buffer, and
the bytes. -/
structure Copy where
  number : Nat
  within : Nat
  place : Nat
  bytes : List UInt8

def Copy.onto (buffer : List UInt8) (copy : Copy) : List UInt8 :=
  buffer.take copy.place ++ copy.bytes ++ buffer.drop (copy.place + copy.bytes.length)

/-- The same parts, with a record of the copies that they make into a buffer of the given length. What
is wanted of a part is always the rest of the buffer. -/
def watched (length : Nat) (part : Part σ) : Part (σ × List Copy) :=
  fun (state, copies) number within wanted ↦
    let (outcome, next) := part state number within wanted
    (outcome, next, copies ++ [⟨number, within, length - wanted, outcome.toOption.getD []⟩])

theorem watched_error {part : Part σ} {state next : σ} {number within wanted : Nat} {fault : Fault}
    (length : Nat) (copies : List Copy)
    (hpart : part state number within wanted = (.error fault, next)) :
    watched length part (state, copies) number within wanted =
      (.error fault, next, copies ++ [⟨number, within, length - wanted, []⟩]) := by
  simp [watched, hpart, Except.toOption]

theorem watched_ok {part : Part σ} {state next : σ} {number within wanted : Nat}
    {piece : List UInt8} (length : Nat) (copies : List Copy)
    (hpart : part state number within wanted = (.ok piece, next)) :
    watched length part (state, copies) number within wanted =
      (.ok piece, next, copies ++ [⟨number, within, length - wanted, piece⟩]) := by
  simp [watched, hpart, Except.toOption]

/-- A buffer that gets two pieces one behind the other gets them as one. -/
theorem foldl_onto_behind {buffer piece rest : List UInt8} {place : Nat} {copies : List Copy}
    (hbuffer : place + piece.length ≤ buffer.length)
    (hcopies : ∀ buffer' : List UInt8, buffer'.length = buffer.length →
      copies.foldl Copy.onto buffer' = buffer'.take (place + piece.length) ++ rest ++
        buffer'.drop (place + piece.length + rest.length)) (number within : Nat) :
    (⟨number, within, place, piece⟩ :: copies).foldl Copy.onto buffer =
      buffer.take place ++ (piece ++ rest) ++ buffer.drop (place + (piece ++ rest).length) := by
  have hplace : (buffer.take place).length = place := by simp; omega
  have hlength : (Copy.onto buffer ⟨number, within, place, piece⟩).length = buffer.length := by
    simp [Copy.onto]
    omega
  rw [List.foldl_cons, hcopies _ hlength]
  have hfront : (Copy.onto buffer ⟨number, within, place, piece⟩).take (place + piece.length) =
      buffer.take place ++ piece :=
    List.take_left' (by simp [hplace])
  have hback (count : Nat) : (Copy.onto buffer ⟨number, within, place, piece⟩).drop
      (place + piece.length + count) = buffer.drop (place + piece.length + count) := by
    unfold Copy.onto
    rw [← List.drop_drop, List.drop_left' (by simp [hplace]), List.drop_drop]
  rw [hfront, hback]
  simp [Nat.add_assoc]

/-- What the loop does to a buffer, of which `wanted` bytes are still to be filled. -/
structure Filling (pageSize length position wanted : Nat) (written : List UInt8)
    (copies : List Copy) : Prop where
  /-- Every page is the one that holds the position of the next byte of the buffer. -/
  located : ∀ copy ∈ copies, copy.number * pageSize + copy.within < UInt64.size ∧
    copy.number * pageSize + copy.within + length = position + wanted + copy.place
  /-- The bytes that are read follow those before them, and the bytes behind stay. -/
  filled : ∀ buffer : List UInt8, buffer.length = length →
    copies.foldl Copy.onto buffer = buffer.take (length - wanted) ++ written ++
      buffer.drop (length - wanted + written.length)

theorem Filling.none (pageSize length position wanted : Nat) :
    Filling pageSize length position wanted [] [] where
  located := by simp
  filled buffer _ := by simp

theorem Filling.single {length position wanted : Nat} (hposition : position < UInt64.size)
    (hwanted : wanted ≤ length) (piece : List UInt8) :
    Filling pageSize length position wanted piece
      [⟨position / pageSize, position % pageSize, length - wanted, piece⟩] where
  located copy hcopy := by
    obtain rfl := List.mem_singleton.mp hcopy
    dsimp only
    rw [Nat.div_add_mod']
    omega
  filled buffer _ := rfl

theorem Filling.behind {length position wanted : Nat} {piece rest : List UInt8} {copies : List Copy}
    (hposition : position < UInt64.size) (hwanted : wanted ≤ length) (hpiece : piece.length ≤ wanted)
    (hrest : Filling pageSize length (position + piece.length) (wanted - piece.length) rest copies) :
    Filling pageSize length position wanted (piece ++ rest)
      (⟨position / pageSize, position % pageSize, length - wanted, piece⟩ :: copies) where
  located copy hcopy := by
    rcases List.mem_cons.mp hcopy with rfl | hcopy
    · exact (Filling.single hposition hwanted piece).located _ (List.mem_singleton.mpr rfl)
    · have hlocated := hrest.located copy hcopy
      omega
  filled buffer hbuffer := by
    apply foldl_onto_behind (by omega)
    intro buffer' hbuffer'
    rw [hrest.filled buffer' (by omega),
      show length - (wanted - piece.length) = length - wanted + piece.length by omega]

/-- Watching the loop changes nothing, and shows what it does to the buffer. -/
theorem Faithful.readFrom_watched (hpart : Faithful pageSize content invariant part)
    (length rounds : Nat) : ∀ (position wanted : Nat) (state : σ) (copies : List Copy),
      invariant state → wanted ≤ length →
      ∃ made, readFrom pageSize (watched length part) rounds position wanted (state, copies) =
          ((readFrom pageSize part rounds position wanted state).1,
            (readFrom pageSize part rounds position wanted state).2, copies ++ made) ∧
        Filling pageSize length position wanted
          (readFrom pageSize part rounds position wanted state).1.written made := by
  induction rounds with
  | zero =>
    intro position wanted state copies _ _
    exact ⟨[], by simp [readFrom], Filling.none _ _ _ _⟩
  | succ rounds ih =>
    intro position wanted state copies hstate hwanted
    rcases round_cases pageSize part position wanted state with
      hends | ⟨hsome, hposition, next, ⟨fault, hnext⟩ | ⟨piece, hnext, hshort⟩ |
        ⟨piece, hnext, hpositive, hfull⟩⟩
    · refine ⟨[], ?_, ?_⟩
      · simp [readFrom_of_ends hends]
      · rw [readFrom_of_ends hends]
        exact Filling.none _ _ _ _
    · refine ⟨[⟨position / pageSize, position % pageSize, length - wanted, []⟩], ?_, ?_⟩
      · rw [readFrom_of_error hsome hposition hnext,
          readFrom_of_error hsome hposition (watched_error length copies hnext)]
      · rw [readFrom_of_error hsome hposition hnext]
        exact Filling.single hposition hwanted []
    · refine ⟨[⟨position / pageSize, position % pageSize, length - wanted, piece⟩], ?_, ?_⟩
      · rw [readFrom_of_short hsome hposition hnext hshort,
          readFrom_of_short hsome hposition (watched_ok length copies hnext) hshort]
      · rw [readFrom_of_short hsome hposition hnext hshort]
        exact Filling.single hposition hwanted piece
    · have hpiece : piece.length ≤ wanted := by
        rw [hpart.gives hstate hposition hnext, length_slice]
        omega
      obtain ⟨made, hmade, hfilling⟩ := ih (position + piece.length) (wanted - piece.length) next
        (copies ++ [⟨position / pageSize, position % pageSize, length - wanted, piece⟩])
        (hpart.keeps hstate hposition hnext) (by omega)
      refine ⟨⟨position / pageSize, position % pageSize, length - wanted, piece⟩ :: made, ?_, ?_⟩
      · rw [readFrom_of_full hsome hposition hnext hpositive hfull,
          readFrom_of_full hsome hposition (watched_ok length copies hnext) hpositive hfull, hmade]
        simp
      · rw [readFrom_of_full hsome hposition hnext hpositive hfull, Reply.written_behind]
        exact hfilling.behind hposition hwanted hpiece

/-- A read fails only where a part does. -/
theorem readFrom_done (pageSize : Nat) (hpart : ∀ state number within wanted, ∃ piece,
      (part state number within wanted).1 = .ok piece) (rounds : Nat) :
    ∀ (position wanted : Nat) (state : σ),
      ∃ bytes, (readFrom pageSize part rounds position wanted state).1 = .done bytes := by
  induction rounds with
  | zero => intro position wanted state; exact ⟨[], rfl⟩
  | succ rounds ih =>
    intro position wanted state
    rcases round_cases pageSize part position wanted state with
      hends | ⟨hsome, hposition, next, ⟨fault, hnext⟩ | ⟨piece, hnext, hshort⟩ |
        ⟨piece, hnext, hpositive, hfull⟩⟩
    · exact ⟨[], by rw [readFrom_of_ends hends]⟩
    · obtain ⟨piece, hpiece⟩ := hpart state (position / pageSize) (position % pageSize) wanted
      simp [hnext] at hpiece
    · exact ⟨piece, by rw [readFrom_of_short hsome hposition hnext hshort]⟩
    · obtain ⟨rest, hrest⟩ := ih (position + piece.length) (wanted - piece.length) next
      refine ⟨piece ++ rest, ?_⟩
      rw [readFrom_of_full hsome hposition hnext hpositive hfull, hrest]
      rfl

end Pages

namespace Device

variable {σ : Type}

def ofSource (source : Source) : Device Unit :=
  ⟨fun state offset length ↦ (source.read offset length, state)⟩

/-- A device that gives the bytes of the content wherever it does not fail. -/
def Serves (device : Device σ) (content : Array UInt8) : Prop :=
  ∀ (state after : σ) (offset : UInt64) (length : Nat) (bytes : List UInt8),
    device.ask state offset length = (.done bytes, after) →
      bytes = slice content offset.toNat length

theorem ofSource_ofArray_serves (content : Array UInt8) :
    (ofSource (.ofArray content)).Serves content := by
  intro state after offset length bytes hask
  simpa [ofSource, Source.ofArray] using (congrArg Prod.fst hask).symm

end Device

/-! ## The cache -/

namespace PageCache

variable {τ σ : Type} [PageStore τ] {device : Device σ} {content : Array UInt8} {pageSize : Nat}

structure Coherent (content : Array UInt8) (pageSize : Nat) (cache : PageCache τ) : Prop where
  size : cache.pageSize = pageSize
  pages : ∀ page ∈ cache.pages, page.2 = slice content (page.1 * pageSize) pageSize

theorem coherent_empty [LawfulPageStore τ] (content : Array UInt8) (pageSize capacity : Nat) :
    Coherent content (max pageSize 1) (empty pageSize capacity : PageCache τ) where
  size := rfl
  pages page hpage := by
    rw [pages_empty] at hpage
    cases hpage

theorem Coherent.find? [LawfulPageStore τ] {cache after : PageCache τ}
    (hcache : Coherent content pageSize cache)
    {number : Nat} {bytes : List UInt8} (hfound : cache.find? number = some (bytes, after)) :
    Coherent content pageSize after ∧ bytes = slice content (number * pageSize) pageSize := by
  have hbytes := hcache.pages (number, bytes) (mem_pages_of_find? hfound)
  obtain ⟨-, hpages, hsize, -⟩ := find?_eq_some hfound
  refine ⟨⟨hsize.trans hcache.size, ?_⟩, hbytes⟩
  intro page hpage
  rw [hpages] at hpage
  rcases List.mem_cons.mp hpage with rfl | hkept
  · exact hbytes
  · exact hcache.pages page (List.mem_of_mem_filter hkept)

theorem Coherent.add [LawfulPageStore τ] {cache : PageCache τ}
    (hcache : Coherent content pageSize cache) {number : Nat}
    {bytes : List UInt8} (hmissing : cache.find? number = none)
    (hbytes : bytes = slice content (number * pageSize) pageSize) :
    Coherent content pageSize (cache.add number bytes) where
  size := hcache.size
  pages page hpage := by
    rw [pages_add hmissing] at hpage
    rcases List.mem_cons.mp (List.mem_of_mem_take hpage) with rfl | hkept
    · exact hbytes
    · exact hcache.pages page hkept

/-- A hit, a fill and a failure all leave a coherent cache, and a page that comes out is right. -/
theorem Coherent.page [LawfulPageStore τ] {cache : PageCache τ}
    (hcache : Coherent content pageSize cache)
    (hserves : device.Serves content) (state : σ) {number : Nat}
    (hnumber : number * pageSize < UInt64.size) :
    Coherent content pageSize (cache.page device state number).2.1 ∧
      ∀ bytes, (cache.page device state number).1 = .ok bytes →
        bytes = slice content (number * pageSize) pageSize := by
  unfold PageCache.page
  split
  · rename_i bytes after hfound
    obtain ⟨hafter, hbytes⟩ := hcache.find? hfound
    refine ⟨hafter, ?_⟩
    rintro _ ⟨⟩
    exact hbytes
  · rename_i hmissing
    split
    · rename_i bytes next hask
      have hbytes : bytes = slice content (number * pageSize) pageSize := by
        have hgiven := hserves _ _ _ _ _ hask
        rwa [hcache.size, Nat.toUInt64_eq, UInt64.toNat_ofNat_of_lt' hnumber] at hgiven
      refine ⟨hcache.add hmissing hbytes, ?_⟩
      rintro _ ⟨⟩
      exact hbytes
    · exact ⟨hcache, by simp⟩

/-- The number of the page of a position does not overflow when it is multiplied back. -/
theorem div_mul_lt_size {position : Nat} (pageSize : Nat) (hposition : position < UInt64.size) :
    position / pageSize * pageSize < UInt64.size :=
  (Nat.div_mul_le_self position pageSize).trans_lt hposition

theorem part_eq (device : Device σ) (cache : PageCache τ) (state : σ) (number within wanted : Nat) :
    part device (cache, state) number within wanted =
      ((cache.page device state number).1.map fun bytes ↦ (bytes.drop within).take wanted,
        (cache.page device state number).2) := rfl

/-- The parts that a coherent cache gives are those of the content. -/
theorem part_faithful (τ : Type) [PageStore τ] [LawfulPageStore τ]
    (hserves : device.Serves content) (pageSize : Nat) :
    Pages.Faithful pageSize content (fun pair : PageCache τ × σ ↦ Coherent content pageSize pair.1)
      (part device) where
  keeps := by
    rintro ⟨cache, state⟩ next position wanted outcome hcache hposition hpart
    rw [part_eq] at hpart
    obtain rfl := congrArg Prod.snd hpart
    exact (hcache.page hserves state (div_mul_lt_size pageSize hposition)).1
  gives := by
    rintro ⟨cache, state⟩ next position wanted piece hcache hposition hpart
    rw [part_eq] at hpart
    have hpage := (hcache.page hserves state (div_mul_lt_size pageSize hposition)).2
    have houtcome := congrArg Prod.fst hpart
    cases hfound : (cache.page device state (position / pageSize)).1 with
    | error fault => simp [hfound, Except.map] at houtcome
    | ok bytes =>
      obtain rfl : (bytes.drop (position % pageSize)).take wanted = piece := by
        simpa [hfound, Except.map] using houtcome
      rw [hpage bytes hfound, take_drop_slice, Nat.div_add_mod']

def afterReads (device : Device σ) : PageCache τ × σ → List (UInt64 × Nat) → PageCache τ × σ
  | start, [] => start
  | (cache, state), (offset, length) :: rest =>
    afterReads device (cache.read device state offset length).2 rest

/-- Whatever was read before, the cache is coherent. -/
theorem Coherent.afterReads [LawfulPageStore τ] (hserves : device.Serves content)
    (earlier : List (UInt64 × Nat)) :
    ∀ {start : PageCache τ × σ}, Coherent content pageSize start.1 →
      Coherent content pageSize (afterReads device start earlier).1 := by
  induction earlier with
  | nil => intro start hstart; exact hstart
  | cons next rest ih =>
    intro start hstart
    apply ih
    have hsize := hstart.size
    subst hsize
    exact (part_faithful τ hserves start.1.pageSize).readFrom_keeps next.2 next.1.toNat next.2 start
      hstart

/-- Over a source in memory no page is refused. -/
theorem part_ofArray_ok (content : Array UInt8) (start : PageCache τ × Unit)
    (number within wanted : Nat) :
    ∃ piece, (part (.ofSource (.ofArray content)) start number within wanted).1 = .ok piece := by
  obtain ⟨cache, state⟩ := start
  cases hfound : cache.find? number with
  | some found => simp [part, page, hfound, Except.map]
  | none => simp [part, page, hfound, Except.map, Device.ofSource, Source.ofArray]

/-- A read through the cache is a read of the content: after any earlier reads it gives the same
bytes, puts them into the buffer and leaves the rest of the buffer alone. Neither the start of a page
nor the position of the next byte exceeds 64 bits. -/
theorem read_eq_direct (τ : Type) [PageStore τ] [LawfulPageStore τ] (content : Array UInt8)
    (hcontent : content.size < 2 ^ 63) (pageSize capacity : Nat) (earlier : List (UInt64 × Nat))
    (offset : UInt64) (buffer : List UInt8) :
    let device := Device.ofSource (.ofArray content)
    let cache := (afterReads device ((empty pageSize capacity : PageCache τ), ()) earlier).1
    ∃ bytes copies,
      (Source.ofArray content).read offset buffer.length = .done bytes ∧
      (cache.read device () offset buffer.length).1 = .done bytes ∧
      Pages.read cache.pageSize (Pages.watched buffer.length (part device)) ((cache, ()), []) offset
        buffer.length = (.done bytes, (cache.read device () offset buffer.length).2, copies) ∧
      copies.foldl Pages.Copy.onto buffer = bytes ++ buffer.drop bytes.length ∧
      (∀ copy ∈ copies, copy.number * cache.pageSize < UInt64.size ∧
        offset.toNat + copy.place < UInt64.size ∧
        copy.number * cache.pageSize + copy.within = offset.toNat + copy.place) ∧
      offset.toNat + bytes.length < UInt64.size := by
  intro device cache
  have hserves := Device.ofSource_ofArray_serves content
  have hcoherent : Coherent content (max pageSize 1) cache :=
    (coherent_empty content pageSize capacity).afterReads hserves earlier
  have hfaithful := part_faithful τ hserves cache.pageSize
  have hcache : Coherent content cache.pageSize cache := by rwa [hcoherent.size]
  obtain ⟨bytes, hbytes⟩ := Pages.readFrom_done cache.pageSize
    (part_ofArray_ok content) buffer.length offset.toNat buffer.length (cache, ())
  obtain ⟨copies, hcopies, hfilling⟩ := hfaithful.readFrom_watched buffer.length buffer.length
    offset.toNat buffer.length (cache, ()) [] hcache le_rfl
  have hslice : bytes = slice content offset.toNat buffer.length :=
    hfaithful.readFrom_gives cache.pageSize_pos (by simp [UInt64.size]; omega) _ _ _ _ _ hcache
      le_rfl hbytes
  rw [hbytes] at hcopies hfilling
  refine ⟨bytes, copies, ?_, hbytes, hcopies, ?_, ?_, ?_⟩
  · rw [hslice]
    rfl
  · simpa [Reply.written] using hfilling.filled buffer rfl
  · intro copy hcopy
    have hlocated := hfilling.located copy hcopy
    omega
  · have hlength := congrArg List.length hslice
    have hoffset := offset.toNat_lt
    rw [length_slice] at hlength
    simp only [UInt64.size] at *
    omega

/-- Reads that cross pages and push one another's pages out. -/
theorem read_eq_direct_evicted :
    (#[1, 2, 3, 4, 5] : Array UInt8).size < 2 ^ 63 ∧
      ((afterReads (.ofSource (.ofArray #[1, 2, 3, 4, 5])) ((empty 2 1 : PageCache RecentPages), ())
        [(0, 5), (9, 1)]).1.read (.ofSource (.ofArray #[1, 2, 3, 4, 5])) () 3 4).1 =
          .done [4, 5] := by
  have hsize : (#[1, 2, 3, 4, 5] : Array UInt8).size < 2 ^ 63 := by decide
  obtain ⟨bytes, copies, hdirect, hread, -⟩ :=
    read_eq_direct RecentPages #[1, 2, 3, 4, 5] hsize 2 1 [(0, 5), (9, 1)] 3 [0, 0, 0, 0]
  refine ⟨hsize, hread.trans ?_⟩
  rw [← hdirect]
  decide

end PageCache

end BinaryLayout
