import BinaryLayout.Proofs.PageCoherence
import Mathlib

/-!
# Uses of Pages

A read through the cache uses one page after another, and asks the device about a page only when the
cache does not hold it. A record of the uses, each with the calls of the device during it, shows this
without changing the read. What one use can do is said once, and a run is a chain of uses, so what a
run keeps follows from what a use keeps.

Nothing is assumed here about the answers of the device, except where the numbers of the pages are
found: how far a read goes depends on where the content ends.
-/

namespace BinaryLayout

def Reply.isFailed : Reply → Bool
  | .done _ => false
  | .failed _ _ => true

@[simp]
theorem Reply.isFailed_behind (bytes : List UInt8) (reply : Reply) :
    (reply.behind bytes).isFailed = reply.isFailed := by
  cases reply <;> rfl

namespace Pages

/-- The pages that a read of `length` bytes at an offset goes through: the page of the offset, and
those behind it that start inside the range and not past the end of a content of `size`
bytes. -/
def touched (pageSize size offset length : Nat) : List Nat :=
  if length = 0 then []
  else
    offset / pageSize :: (List.range' (offset / pageSize + 1) length).filter fun number ↦
      number * pageSize < offset + length ∧ number * pageSize ≤ size

variable {pageSize size offset length : Nat}

@[simp]
theorem touched_zero (pageSize size offset : Nat) : touched pageSize size offset 0 = [] := rfl

/-- What is left of the page of a position leads to the next page. -/
theorem add_rest_of_page (hpage : 0 < pageSize) (position : Nat) :
    position + (pageSize - position % pageSize) = (position / pageSize + 1) * pageSize := by
  have hwithin : position % pageSize < pageSize := Nat.mod_lt _ hpage
  have hposition := Nat.div_add_mod' position pageSize
  rw [Nat.add_one_mul]
  omega

theorem touched_eq_cons (pageSize size offset : Nat) (hlength : 0 < length) :
    ∃ behind, touched pageSize size offset length = offset / pageSize :: behind := by
  unfold touched
  rw [if_neg (by omega)]
  exact ⟨_, rfl⟩

theorem mem_touched (hpage : 0 < pageSize) (number : Nat) :
    number ∈ touched pageSize size offset length ↔
      0 < length ∧ (number = offset / pageSize ∨
        offset / pageSize < number ∧ number * pageSize < offset + length ∧
          number * pageSize ≤ size) := by
  -- A page of the read is in the range, since `length` pages have at least as many bytes.
  have hrange (hstarts : number * pageSize < offset + length) :
      number < offset / pageSize + 1 + length := by
    by_contra hpast
    have hnext := add_rest_of_page hpage offset
    have hwithin : offset % pageSize < pageSize := Nat.mod_lt _ hpage
    have hlength : length ≤ length * pageSize := Nat.le_mul_of_pos_right length hpage
    have hfar : (offset / pageSize + 1 + length) * pageSize ≤ number * pageSize :=
      Nat.mul_le_mul_right pageSize (by omega)
    rw [Nat.add_mul] at hfar
    omega
  unfold touched
  split
  · rename_i hnone
    simp [hnone]
  · rename_i hsome
    simp only [List.mem_cons, List.mem_filter, List.mem_range'_1, decide_eq_true_eq]
    constructor
    · rintro (hfirst | hbehind)
      · exact ⟨by omega, .inl hfirst⟩
      · exact ⟨by omega, .inr ⟨by omega, hbehind.2⟩⟩
    · rintro ⟨-, hfirst | ⟨hbehind, hstarts, hends⟩⟩
      · exact .inl hfirst
      · exact .inr ⟨⟨by omega, hrange hstarts⟩, hstarts, hends⟩

theorem pairwise_touched (pageSize size offset length : Nat) :
    (touched pageSize size offset length).Pairwise (· < ·) := by
  unfold touched
  split
  · exact List.Pairwise.nil
  · apply List.pairwise_cons.mpr
    constructor
    · intro number hnumber
      have hbehind := (List.mem_range'_1.mp (List.mem_of_mem_filter hnumber)).1
      omega
    · exact List.Pairwise.filter _ (List.pairwise_lt_range' 1)

/-- A read that ends in its first page, or in which the content ends, goes no further. -/
theorem touched_of_last (hlength : 0 < length)
    (hlast : offset + length ≤ (offset / pageSize + 1) * pageSize ∨
      size < (offset / pageSize + 1) * pageSize) :
    touched pageSize size offset length = [offset / pageSize] := by
  unfold touched
  rw [if_neg (by omega), List.filter_eq_nil_iff.mpr]
  intro number hnumber
  have hbehind : (offset / pageSize + 1) * pageSize ≤ number * pageSize :=
    Nat.mul_le_mul_right pageSize (List.mem_range'_1.mp hnumber).1
  simp only [decide_eq_true_eq]
  omega

/-- A read that takes its first page to the end goes on as a read at the next page. -/
theorem touched_of_full (hpage : 0 < pageSize) {step : Nat}
    (hstep : offset + step = (offset / pageSize + 1) * pageSize) (hlength : step ≤ length)
    (hsize : offset + step ≤ size) (hsome : 0 < length) :
    touched pageSize size offset length =
      offset / pageSize :: touched pageSize size (offset + step) (length - step) := by
  have hnext : (offset + step) / pageSize = offset / pageSize + 1 := by
    rw [hstep, Nat.mul_div_cancel _ hpage]
  apply (pairwise_touched _ _ _ _).eq_of_mem_iff
  · apply List.pairwise_cons.mpr
    refine ⟨?_, pairwise_touched _ _ _ _⟩
    intro number hnumber
    rw [mem_touched hpage, hnext] at hnumber
    omega
  · intro number
    rw [List.mem_cons, mem_touched hpage, mem_touched hpage, hnext,
      show offset + step + (length - step) = offset + length by omega]
    -- The next page is touched just if a byte of it is wanted, and those behind it only then.
    have hstarts (hbehind : offset / pageSize < number) : offset + step ≤ number * pageSize := by
      rw [hstep]
      exact Nat.mul_le_mul_right pageSize hbehind
    have hsecond (hnumber : number = offset / pageSize + 1) : number * pageSize = offset + step := by
      rw [hnumber, hstep]
    omega

end Pages

/-! ## Recording calls and uses -/

namespace Device

variable {σ : Type}

structure Call where
  offset : UInt64
  length : Nat
  reply : Reply
deriving DecidableEq

def recorded (device : Device σ) : Device (σ × List Call) :=
  ⟨fun (state, calls) offset length ↦
    let (reply, next) := device.ask state offset length
    (reply, next, calls ++ [⟨offset, length, reply⟩])⟩

theorem recorded_ask {device : Device σ} {state next : σ} {offset : UInt64} {length : Nat}
    {reply : Reply} (hask : device.ask state offset length = (reply, next)) (calls : List Call) :
    device.recorded.ask (state, calls) offset length =
      (reply, next, calls ++ [⟨offset, length, reply⟩]) := by
  simp only [recorded, hask]

end Device

namespace PageCache

variable {τ σ : Type} [PageStore τ] {device : Device σ} {content : Array UInt8} {pageSize : Nat}

structure Touch where
  number : Nat
  calls : List Device.Call
deriving DecidableEq

def Touch.isFailed (touch : Touch) : Bool :=
  touch.calls.any fun call ↦ call.reply.isFailed

def traced (device : Device σ) : Pages.Part ((PageCache τ × σ) × List Touch) :=
  fun ((cache, state), touches) number within wanted ↦
    let (outcome, after, next, calls) := part device.recorded (cache, state, []) number within wanted
    (outcome, (after, next), touches ++ [⟨number, calls⟩])

/-- What a use of a page does. A page that is kept is used. For another one the device is called once,
and unless that fails it is kept. -/
inductive Use (device : Device σ) : PageCache τ × σ → Touch → PageCache τ × σ → Prop
  | hit {cache after : PageCache τ} {state : σ} {number : Nat} {bytes : List UInt8}
      (hfound : cache.find? number = some (bytes, after)) :
      Use device (cache, state) ⟨number, []⟩ (after, state)
  | fill {cache : PageCache τ} {state next : σ} {number : Nat} {bytes : List UInt8}
      (hmissing : cache.find? number = none)
      (hask : device.ask state (number * cache.pageSize).toUInt64 cache.pageSize =
        (.done bytes, next)) :
      Use device (cache, state)
        ⟨number, [⟨(number * cache.pageSize).toUInt64, cache.pageSize, .done bytes⟩]⟩
        (cache.add number bytes, next)
  | failure {cache : PageCache τ} {state next : σ} {number : Nat} {fault : Fault}
      {written : List UInt8} (hmissing : cache.find? number = none)
      (hask : device.ask state (number * cache.pageSize).toUInt64 cache.pageSize =
        (.failed fault written, next)) :
      Use device (cache, state)
        ⟨number, [⟨(number * cache.pageSize).toUInt64, cache.pageSize, .failed fault written⟩]⟩
        (cache, next)

inductive Run (device : Device σ) (start : PageCache τ × σ) : List Touch → PageCache τ × σ → Prop
  | nil : Run device start [] start
  | snoc {history : List Touch} {touch : Touch} {now next : PageCache τ × σ}
      (hrun : Run device start history now) (huse : Use device now touch next) :
      Run device start (history ++ [touch]) next

theorem page_of_hit {cache after : PageCache τ} {number : Nat} {bytes : List UInt8}
    (hfound : cache.find? number = some (bytes, after)) (device : Device σ) (state : σ) :
    cache.page device state number = (.ok bytes, after, state) := by
  simp only [page, hfound]

theorem page_of_fill {cache : PageCache τ} {state next : σ} {number : Nat} {bytes : List UInt8}
    (hmissing : cache.find? number = none)
    (hask : device.ask state (number * cache.pageSize).toUInt64 cache.pageSize =
      (.done bytes, next)) :
    cache.page device state number = (.ok bytes, cache.add number bytes, next) := by
  simp only [page, hmissing, hask]

theorem page_of_failure {cache : PageCache τ} {state next : σ} {number : Nat} {fault : Fault}
    {written : List UInt8} (hmissing : cache.find? number = none)
    (hask : device.ask state (number * cache.pageSize).toUInt64 cache.pageSize =
      (.failed fault written, next)) :
    cache.page device state number = (.error fault, cache, next) := by
  simp only [page, hmissing, hask]

/-- A page comes from one use of it, and the calls of that use are those that are recorded. -/
theorem exists_use (device : Device σ) (cache : PageCache τ) (state : σ) (number : Nat) :
    ∃ result next calls,
      cache.page device state number = (result, next) ∧
      cache.page device.recorded (state, []) number = (result, next.1, next.2, calls) ∧
      Use device (cache, state) ⟨number, calls⟩ next ∧
      Touch.isFailed ⟨number, calls⟩ = !result.isOk := by
  cases hfound : cache.find? number with
  | some found =>
    exact ⟨_, _, _, page_of_hit hfound device state, page_of_hit hfound _ _, .hit hfound, rfl⟩
  | none =>
    cases hask : device.ask state (number * cache.pageSize).toUInt64 cache.pageSize with
    | mk reply next =>
      have hrecorded := Device.recorded_ask hask []
      cases reply with
      | done bytes =>
        exact ⟨_, _, _, page_of_fill hfound hask, page_of_fill hfound hrecorded,
          .fill hfound hask, rfl⟩
      | failed fault written =>
        exact ⟨_, _, _, page_of_failure hfound hask, page_of_failure hfound hrecorded,
          .failure hfound hask, rfl⟩

/-- A part that is traced adds a use of its page to the record, and is otherwise as it was. -/
theorem traced_use {now next : PageCache τ × σ} {number within wanted : Nat}
    {outcome : Except Fault (List UInt8)}
    (hpart : part device now number within wanted = (outcome, next)) (touches : List Touch) :
    ∃ touch, traced device (now, touches) number within wanted = (outcome, next, touches ++ [touch]) ∧
      touch.number = number ∧ Use device now touch next ∧ touch.isFailed = !outcome.isOk := by
  obtain ⟨result, after, calls, hpage, hrecorded, huse, hfailed⟩ :=
    exists_use device now.1 now.2 number
  rw [← Prod.mk.eta (p := now), part_eq, hpage] at hpart
  obtain ⟨rfl, rfl⟩ := Prod.mk.inj hpart
  refine ⟨⟨number, calls⟩, ?_, rfl, huse, ?_⟩
  · simp only [traced, part_eq, hrecorded]
  · rw [hfailed]
    cases result <;> rfl

/-! ## Runs -/

theorem Run.append {start now next : PageCache τ × σ} {earlier later : List Touch}
    (hearlier : Run device start earlier now) (hlater : Run device now later next) :
    Run device start (earlier ++ later) next := by
  induction hlater with
  | nil => rwa [List.append_nil]
  | snoc hrun huse ih =>
    rw [← List.append_assoc]
    exact ih.snoc huse

theorem Use.run {now next : PageCache τ × σ} {touch : Touch} (huse : Use device now touch next) :
    Run device now [touch] next :=
  Run.nil.snoc huse

/-- Every use of a run is made by the cache that the uses before it have left. -/
theorem Run.use {start last : PageCache τ × σ} {history : List Touch}
    (hrun : Run device start history last) :
    ∀ {before after : List Touch} {touch : Touch}, history = before ++ touch :: after →
      ∃ now next, Run device start before now ∧ Use device now touch next := by
  induction hrun with
  | nil =>
    intro before after touch hsplit
    simp at hsplit
  | @snoc history newest now next hrun huse ih =>
    intro before after touch hsplit
    rcases List.eq_nil_or_concat after with rfl | ⟨front, final, rfl⟩
    · obtain ⟨rfl, hlast⟩ := List.append_inj' hsplit rfl
      obtain rfl : newest = touch := by simpa using hlast
      exact ⟨now, next, hrun, huse⟩
    · rw [List.concat_eq_append, ← List.cons_append, ← List.append_assoc] at hsplit
      exact ih (List.append_inj_left' hsplit rfl)

theorem Use.geometry_eq [LawfulPageStore τ] {now next : PageCache τ × σ} {touch : Touch}
    (huse : Use device now touch next) :
    next.1.pageSize = now.1.pageSize ∧ next.1.capacity = now.1.capacity := by
  cases huse with
  | hit hfound => exact (find?_eq_some hfound).2.2
  | fill hmissing _ => exact ⟨rfl, capacity_add hmissing _⟩
  | failure => exact ⟨rfl, rfl⟩

theorem Run.geometry_eq [LawfulPageStore τ] {start now : PageCache τ × σ} {history : List Touch}
    (hrun : Run device start history now) :
    now.1.pageSize = start.1.pageSize ∧ now.1.capacity = start.1.capacity := by
  induction hrun with
  | nil => exact ⟨rfl, rfl⟩
  | snoc hrun huse ih => exact ⟨huse.geometry_eq.1.trans ih.1, huse.geometry_eq.2.trans ih.2⟩

/-- What is recorded of a read is a run from the cache before it to the cache after it. The read fails
just if one of these uses does, and is otherwise not changed by the record. -/
theorem readFrom_traced (device : Device σ) (pageSize rounds : Nat) :
    ∀ (position wanted : Nat) (now : PageCache τ × σ) (touches : List Touch),
      ∃ made,
        Pages.readFrom pageSize (traced device) rounds position wanted (now, touches) =
          ((Pages.readFrom pageSize (part device) rounds position wanted now).1,
            (Pages.readFrom pageSize (part device) rounds position wanted now).2, touches ++ made) ∧
        Run device now made (Pages.readFrom pageSize (part device) rounds position wanted now).2 ∧
        (Pages.readFrom pageSize (part device) rounds position wanted now).1.isFailed =
          made.any Touch.isFailed := by
  induction rounds with
  | zero =>
    intro position wanted now touches
    exact ⟨[], by simp [Pages.readFrom], .nil, rfl⟩
  | succ rounds ih =>
    intro position wanted now touches
    rcases Pages.round_cases pageSize (part device) position wanted now with
      hends | ⟨hsome, hposition, next, ⟨fault, hnext⟩ | ⟨piece, hnext, hshort⟩ |
        ⟨piece, hnext, hpositive, hfull⟩⟩
    · rw [Pages.readFrom_of_ends hends, Pages.readFrom_of_ends hends]
      exact ⟨[], by simp, .nil, rfl⟩
    · obtain ⟨touch, htraced, -, huse, hfailed⟩ := traced_use hnext touches
      rw [Pages.readFrom_of_error hsome hposition hnext,
        Pages.readFrom_of_error hsome hposition htraced]
      exact ⟨[touch], rfl, huse.run, by simp [hfailed, Reply.isFailed, Except.isOk, Except.toBool]⟩
    · obtain ⟨touch, htraced, -, huse, hfailed⟩ := traced_use hnext touches
      rw [Pages.readFrom_of_short hsome hposition hnext hshort,
        Pages.readFrom_of_short hsome hposition htraced hshort]
      exact ⟨[touch], rfl, huse.run, by simp [hfailed, Reply.isFailed, Except.isOk, Except.toBool]⟩
    · obtain ⟨touch, htraced, -, huse, hfailed⟩ := traced_use hnext touches
      obtain ⟨made, hmade, hrun, hany⟩ :=
        ih (position + piece.length) (wanted - piece.length) next (touches ++ [touch])
      rw [Pages.readFrom_of_full hsome hposition hnext hpositive hfull,
        Pages.readFrom_of_full hsome hposition htraced hpositive hfull, hmade]
      refine ⟨touch :: made, by simp, huse.run.append hrun, ?_⟩
      simp [hany, hfailed, Except.isOk, Except.toBool]

/-- As long as no use fails, a read uses the pages that its range and the content tell, and else it
stops on its way through them. -/
theorem numbers_readFrom_traced [LawfulPageStore τ] (hserves : device.Serves content)
    (hpage : 0 < pageSize) (hsize : content.size < UInt64.size) (rounds : Nat) :
    ∀ (position wanted : Nat) (now : PageCache τ × σ) (touches : List Touch),
      Coherent content pageSize now.1 → position < UInt64.size → wanted ≤ rounds →
      ∃ made,
        (Pages.readFrom pageSize (traced device) rounds position wanted (now, touches)).2.2 =
          touches ++ made ∧
        made.map Touch.number <+: Pages.touched pageSize content.size position wanted ∧
        ((∀ touch ∈ made, touch.isFailed = false) →
          made.map Touch.number = Pages.touched pageSize content.size position wanted) := by
  have hfaithful := part_faithful τ hserves pageSize
  induction rounds with
  | zero =>
    intro position wanted now touches _ _ hwanted
    obtain rfl : wanted = 0 := by omega
    exact ⟨[], by simp [Pages.readFrom], by simp, by simp⟩
  | succ rounds ih =>
    intro position wanted now touches hnow hlow hwanted
    rcases Pages.round_cases pageSize (part device) position wanted now with
      hends | ⟨hsome, hposition, next, ⟨fault, hnext⟩ | ⟨piece, hnext, hshort⟩ |
        ⟨piece, hnext, hpositive, hfull⟩⟩
    · obtain rfl : wanted = 0 := by omega
      rw [Pages.readFrom_of_ends hends]
      exact ⟨[], by simp, by simp, by simp⟩
    · obtain ⟨touch, htraced, hnumber, -, hfailed⟩ := traced_use hnext touches
      obtain ⟨behind, hbehind⟩ := Pages.touched_eq_cons pageSize content.size position hsome
      rw [Pages.readFrom_of_error hsome hposition htraced, hbehind]
      refine ⟨[touch], rfl, by simp [hnumber], ?_⟩
      -- the round that failed is the last of the list, so not all of its touches went well
      intro hdone
      simpa [hfailed, Except.isOk, Except.toBool] using hdone touch
    · obtain ⟨touch, htraced, hnumber, -, -⟩ := traced_use hnext touches
      have hlength := congrArg List.length (hfaithful.gives hnow hposition hnext)
      rw [length_slice] at hlength
      have hrest := Pages.add_rest_of_page hpage position
      have hwithin : position % pageSize < pageSize := Nat.mod_lt _ hpage
      have hlast : Pages.touched pageSize content.size position wanted = [position / pageSize] :=
        Pages.touched_of_last hsome (by omega)
      rw [Pages.readFrom_of_short hsome hposition htraced hshort, hlast]
      exact ⟨[touch], rfl, by simp [hnumber], by simp [hnumber]⟩
    · obtain ⟨touch, htraced, hnumber, -, -⟩ := traced_use hnext touches
      have hlength := congrArg List.length (hfaithful.gives hnow hposition hnext)
      rw [length_slice] at hlength
      -- a piece that is not short reaches up to the next page, where the other rounds start
      have hstep : position + piece.length = (position / pageSize + 1) * pageSize := by
        rw [← Pages.add_rest_of_page hpage position]
        omega
      obtain ⟨made, hmade, hprefix, hall⟩ :=
        ih (position + piece.length) (wanted - piece.length) next (touches ++ [touch])
          (hfaithful.keeps hnow hposition hnext) (by omega) (by omega)
      rw [Pages.readFrom_of_full hsome hposition htraced hpositive hfull, hmade,
        Pages.touched_of_full hpage hstep (by omega) (by omega) hsome]
      refine ⟨touch :: made, by simp, by simpa [hnumber] using hprefix, ?_⟩
      intro hdone
      rw [List.map_cons, hnumber, hall fun later hlater ↦ hdone later (List.mem_cons_of_mem _ hlater)]

def readTouches (device : Device σ) (now : PageCache τ × σ) (offset : UInt64) (length : Nat) :
    List Touch :=
  (Pages.read now.1.pageSize (traced device) (now, []) offset length).2.2

def touches (device : Device σ) : PageCache τ × σ → List (UInt64 × Nat) → List Touch
  | _, [] => []
  | now, (offset, length) :: rest =>
    readTouches device now offset length ++
      touches device (now.1.read device now.2 offset length).2 rest

theorem run_readTouches (device : Device σ) (now : PageCache τ × σ) (offset : UInt64) (length : Nat) :
    Run device now (readTouches device now offset length)
      (now.1.read device now.2 offset length).2 := by
  obtain ⟨made, hmade, hrun, -⟩ :=
    readFrom_traced device now.1.pageSize length offset.toNat length now []
  unfold readTouches Pages.read
  rw [hmade]
  exact hrun

/-- A read fails just if the device failed during it. -/
theorem isFailed_read (device : Device σ) (now : PageCache τ × σ) (offset : UInt64) (length : Nat) :
    (now.1.read device now.2 offset length).1.isFailed =
      (readTouches device now offset length).any Touch.isFailed := by
  obtain ⟨made, hmade, -, hfailed⟩ :=
    readFrom_traced device now.1.pageSize length offset.toNat length now []
  unfold readTouches Pages.read
  rw [hmade]
  exact hfailed

theorem run_touches (device : Device σ) (reads : List (UInt64 × Nat)) :
    ∀ start : PageCache τ × σ,
      Run device start (touches device start reads) (afterReads device start reads) := by
  induction reads with
  | nil => intro start; exact .nil
  | cons next rest ih => intro start; exact (run_readTouches device start next.1 next.2).append (ih _)

theorem numbers_readTouches [LawfulPageStore τ] (hserves : device.Serves content)
    (hsize : content.size < UInt64.size)
    {now : PageCache τ × σ} (hnow : Coherent content pageSize now.1) (offset : UInt64) (length : Nat) :
    (readTouches device now offset length).map Touch.number <+:
        Pages.touched pageSize content.size offset.toNat length ∧
      ((∀ touch ∈ readTouches device now offset length, touch.isFailed = false) →
        (readTouches device now offset length).map Touch.number =
          Pages.touched pageSize content.size offset.toNat length) := by
  obtain rfl := hnow.size
  obtain ⟨made, hmade, hnumbers⟩ := numbers_readFrom_traced hserves now.1.pageSize_pos hsize length
    offset.toNat length now [] hnow offset.toNat_lt le_rfl
  unfold readTouches Pages.read
  rw [hmade]
  exact hnumbers

theorem Coherent.read [LawfulPageStore τ] (hserves : device.Serves content) {now : PageCache τ × σ}
    (hnow : Coherent content pageSize now.1) (offset : UInt64) (length : Nat) :
    Coherent content pageSize (now.1.read device now.2 offset length).2.1 :=
  hnow.afterReads hserves [(offset, length)]

/-- No page that is used starts past 64 bits. -/
theorem start_lt_of_mem_touches [LawfulPageStore τ] (hserves : device.Serves content)
    (hsize : content.size < UInt64.size) {touch : Touch} (reads : List (UInt64 × Nat)) :
    ∀ {start : PageCache τ × σ}, Coherent content pageSize start.1 →
      touch ∈ touches device start reads → touch.number * pageSize < UInt64.size := by
  induction reads with
  | nil =>
    intro start _ htouch
    simp [touches] at htouch
  | cons next rest ih =>
    intro start hstart htouch
    rcases List.mem_append.mp htouch with hfirst | hrest
    · have hpage : 0 < pageSize := hstart.size ▸ start.1.pageSize_pos
      have hnumbers := (numbers_readTouches hserves hsize hstart next.1 next.2).1
      have hmem := hnumbers.subset (List.mem_map_of_mem hfirst)
      rcases ((Pages.mem_touched hpage _).mp hmem).2 with hnumber | ⟨-, -, hends⟩
      · rw [hnumber]
        exact div_mul_lt_size pageSize next.1.toNat_lt
      · omega
    · exact ih (hstart.read hserves next.1 next.2) hrest

/-- If nothing fails, the pages of some reads are those of one read after another. -/
theorem numbers_touches [LawfulPageStore τ] (hserves : device.Serves content)
    (hsize : content.size < UInt64.size) (reads : List (UInt64 × Nat)) :
    ∀ {start : PageCache τ × σ}, Coherent content pageSize start.1 →
      (∀ touch ∈ touches device start reads, touch.isFailed = false) →
      (touches device start reads).map Touch.number =
        reads.flatMap fun read ↦ Pages.touched pageSize content.size read.1.toNat read.2 := by
  induction reads with
  | nil =>
    intro start _ _
    rfl
  | cons next rest ih =>
    intro start hstart hdone
    have hfirst := (numbers_readTouches hserves hsize hstart next.1 next.2).2
      fun touch htouch ↦ hdone touch (List.mem_append_left _ htouch)
    have hrest := ih (hstart.read hserves next.1 next.2)
      fun touch htouch ↦ hdone touch (List.mem_append_right _ htouch)
    rw [List.flatMap_cons, ← hfirst, ← hrest, ← List.map_append]
    rfl

end PageCache

end BinaryLayout
