import BinaryLayout.Proofs.PageTouches
import Mathlib

/-!
# Pages by Recency

The cache keeps the pages that were used last, each once and the last first, as many as it has room
for. So it calls the device just for those uses whose page is not among them. A page that could not be
read does not count as used.
-/

namespace BinaryLayout.PageCache

variable {τ σ : Type} [PageStore τ] {device : Device σ} {content : Array UInt8} {pageSize : Nat}

/-- The pages in a list of uses from the last on, each once, at most `capacity` of them. -/
def recent (capacity : Nat) (numbers : List Nat) : List Nat :=
  numbers.dedup.reverse.take capacity

def delivered (history : List Touch) : List Nat :=
  (history.filter fun touch ↦ !touch.isFailed).map Touch.number

theorem dedup_concat (numbers : List Nat) (number : Nat) :
    (numbers ++ [number]).dedup = (numbers.dedup.filter (· != number)) ++ [number] := by
  induction numbers with
  | nil => simp
  | cons first rest ih =>
    by_cases hrest : first ∈ rest
    · rw [List.cons_append, List.dedup_cons_of_mem (List.mem_append_left _ hrest), ih,
        List.dedup_cons_of_mem hrest]
    · by_cases hsame : first = number
      · subst hsame
        rw [List.cons_append, List.dedup_cons_of_mem (by simp), ih, List.dedup_cons_of_notMem hrest]
        simp
      · rw [List.cons_append, List.dedup_cons_of_notMem (by simp [hrest, hsame]), ih,
          List.dedup_cons_of_notMem hrest]
        simp [hsame]

theorem recent_concat (capacity : Nat) (numbers : List Nat) (number : Nat) :
    recent capacity (numbers ++ [number]) =
      (number :: numbers.dedup.reverse.filter (· != number)).take capacity := by
  rw [recent, dedup_concat, List.reverse_append, List.reverse_singleton, List.singleton_append,
    List.filter_reverse]

/-- A page among the first `capacity` moves to the front, and the same pages stay. -/
theorem cons_filter_take {order : List Nat} (horder : order.Nodup) {capacity number : Nat}
    (hmem : number ∈ order.take capacity) :
    number :: (order.take capacity).filter (· != number) =
      (number :: order.filter (· != number)).take capacity := by
  obtain ⟨front, back, rfl⟩ := List.append_of_mem (List.mem_of_mem_take hmem)
  have honce : number ∉ front ++ back := (List.nodup_cons.mp (List.nodup_middle.mp horder)).1
  have hfront : number ∉ front := fun hin ↦ honce (List.mem_append_left back hin)
  have hback : number ∉ back := fun hin ↦ honce (List.mem_append_right front hin)
  have hother {pages : List Nat} (hpages : number ∉ pages) : pages.filter (· != number) = pages :=
    List.filter_eq_self.mpr fun page hpage ↦ bne_iff_ne.mpr fun hsame ↦ hpages (hsame ▸ hpage)
  have hroom : front.length < capacity := by
    by_contra hfull
    rw [List.take_append_of_le_length (by omega)] at hmem
    exact hfront (List.mem_of_mem_take hmem)
  obtain ⟨room, rfl⟩ := Nat.exists_eq_add_of_lt hroom
  have htake (pages : List Nat) :
      (front ++ pages).take (front.length + room + 1) = front ++ pages.take (room + 1) := by
    rw [Nat.add_assoc, List.take_length_add_append]
  calc
    number :: ((front ++ number :: back).take (front.length + room + 1)).filter (· != number)
      = number :: (front ++ back.take room) := by
        rw [htake, List.take_succ_cons, List.filter_append, hother hfront]
        simp [hother fun hin ↦ hback (List.mem_of_mem_take hin)]
    _ = (number :: (front ++ back)).take (front.length + room + 1) := by
        rw [List.take_succ_cons, List.take_length_add_append]
    _ = (number :: (front ++ number :: back).filter (· != number)).take
          (front.length + room + 1) := by
        rw [List.filter_append, hother hfront]
        simp [hother hback]

/-- A page that is not among the first `capacity` comes to the front, and the last of them goes. -/
theorem take_cons_take {order : List Nat} {capacity number : Nat} (hcapacity : 0 < capacity)
    (hnew : number ∉ order.take capacity) :
    (number :: order.take capacity).take capacity =
      (number :: order.filter (· != number)).take capacity := by
  obtain ⟨room, rfl⟩ := Nat.exists_eq_add_one.mpr hcapacity
  have hkept : (order.take (room + 1)).filter (· != number) = order.take (room + 1) :=
    List.filter_eq_self.mpr fun page hpage ↦ bne_iff_ne.mpr fun hsame ↦ hnew (hsame ▸ hpage)
  have hbehind : ((order.drop (room + 1)).filter (· != number)).take
      (room - (order.take (room + 1)).length) = [] := by
    by_cases hlong : room ≤ order.length
    · rw [List.length_take, show room - min (room + 1) order.length = 0 by omega, List.take_zero]
    · rw [List.drop_eq_nil_of_le (by omega), List.filter_nil, List.take_nil]
  calc
    (number :: order.take (room + 1)).take (room + 1)
      = number :: (order.take (room + 1)).take room := List.take_succ_cons
    _ = number :: ((order.take (room + 1) ++ order.drop (room + 1)).filter (· != number)).take room := by
        rw [List.filter_append, hkept, List.take_append, hbehind, List.append_nil]
    _ = (number :: order.filter (· != number)).take (room + 1) := by
        rw [List.take_append_drop, List.take_succ_cons]

/-! ## Uses and runs -/

def numbers (cache : PageCache τ) : List Nat :=
  cache.pages.map Prod.fst

section

variable [LawfulPageStore τ] {cache after : PageCache τ} {number : Nat} {bytes : List UInt8}

theorem numbers_find? (hfound : cache.find? number = some (bytes, after)) :
    number ∈ cache.numbers ∧ after.numbers = number :: cache.numbers.filter (· != number) := by
  refine ⟨List.mem_map_of_mem (mem_pages_of_find? hfound), ?_⟩
  obtain ⟨-, hpages, -⟩ := find?_eq_some hfound
  simp [numbers, hpages, List.filter_map, Function.comp_def]

theorem numbers_add (hmissing : cache.find? number = none) (bytes : List UInt8) :
    number ∉ cache.numbers ∧
      (cache.add number bytes).numbers = (number :: cache.numbers).take cache.capacity := by
  constructor
  · intro hmem
    obtain ⟨page, hpage, rfl⟩ := List.mem_map.mp hmem
    exact ne_of_find?_eq_none hmissing hpage rfl
  · simp [numbers, pages_add hmissing]

end

theorem delivered_concat (history : List Touch) (touch : Touch) :
    delivered (history ++ [touch]) =
      delivered history ++ if touch.isFailed then [] else [touch.number] := by
  cases hfailed : touch.isFailed <;> simp [delivered, hfailed]

theorem delivered_eq_map {history : List Touch}
    (hdone : ∀ touch ∈ history, touch.isFailed = false) :
    delivered history = history.map Touch.number := by
  rw [delivered, List.filter_eq_self.mpr fun touch htouch ↦ by simp [hdone touch htouch]]

/-- A use keeps the pages in the order in which they were used last. -/
theorem Use.numbers_eq [LawfulPageStore τ] {now next : PageCache τ × σ} {touch : Touch}
    (huse : Use device now touch next) (hroom : 0 < now.1.capacity) {history : List Touch}
    (hnow : now.1.numbers = recent now.1.capacity (delivered history)) :
    next.1.numbers = recent now.1.capacity (delivered (history ++ [touch])) := by
  have hnodup : (delivered history).dedup.reverse.Nodup :=
    List.nodup_reverse.mpr (List.nodup_dedup _)
  cases huse with
  | hit hfound =>
    obtain ⟨hmem, hnumbers⟩ := numbers_find? hfound
    rw [hnow, recent] at hmem
    rw [hnumbers, hnow, delivered_concat, if_neg (by simp [Touch.isFailed]), recent_concat]
    exact cons_filter_take hnodup hmem
  | @fill cache state next number bytes hmissing hask =>
    obtain ⟨hnew, hnumbers⟩ := numbers_add hmissing bytes
    rw [hnow, recent] at hnew
    rw [hnumbers, hnow, delivered_concat, if_neg (by simp [Touch.isFailed, Reply.isFailed]),
      recent_concat]
    exact take_cons_take hroom hnew
  | failure hmissing hask =>
    rw [delivered_concat, if_pos (by simp [Touch.isFailed, Reply.isFailed]), List.append_nil]
    exact hnow

/-- So does a run. -/
theorem Run.numbers_eq [LawfulPageStore τ] {start now : PageCache τ × σ} {history : List Touch}
    (hrun : Run device start history now) (hroom : 0 < start.1.capacity)
    (hstart : start.1.numbers = []) : now.1.numbers = recent start.1.capacity (delivered history) := by
  induction hrun with
  | nil => simpa [recent, delivered] using hstart
  | snoc hrun huse ih =>
    rw [← hrun.geometry_eq.2] at ih hroom ⊢
    exact huse.numbers_eq hroom ih

/-- A use calls the device, once and for the whole page, just if the page is not kept. -/
theorem Use.calls_eq [LawfulPageStore τ] {now next : PageCache τ × σ} {touch : Touch}
    (huse : Use device now touch next) (hlow : touch.number * now.1.pageSize < UInt64.size) :
    touch.calls.map (fun call ↦ (call.offset.toNat, call.length)) =
      if touch.number ∈ now.1.numbers then []
      else [(touch.number * now.1.pageSize, now.1.pageSize)] := by
  cases huse with
  | hit hfound => rw [if_pos (numbers_find? hfound).1, List.map_nil]
  | fill hmissing hask =>
    rw [if_neg (numbers_add hmissing []).1, List.map_singleton, Nat.toUInt64_eq,
      UInt64.toNat_ofNat_of_lt' hlow]
  | failure hmissing hask =>
    rw [if_neg (numbers_add hmissing []).1, List.map_singleton, Nat.toUInt64_eq,
      UInt64.toNat_ofNat_of_lt' hlow]

/-- The cache keeps the pages that were used last. From an empty cache, and for any reads of a source
that gives the content where it does not fail: each read uses the pages that its range and the size of
the content tell, or stops among them where the source fails; the pages that are kept are the
`capacity` pages used last, each once and the last first; and the source is called just for the uses of
pages that are not among those, once each and for the whole page. -/
theorem numbers_eq_recent (τ : Type) [PageStore τ] [LawfulPageStore τ] (content : Array UInt8)
    (hsize : content.size < UInt64.size) (device : Device σ) (hserves : device.Serves content)
    (state : σ) {pageSize capacity : Nat} (hpage : 1 ≤ pageSize) (hcapacity : 1 ≤ capacity)
    (reads : List (UInt64 × Nat)) :
    let start := ((empty pageSize capacity : PageCache τ), state)
    let cache := (afterReads device start reads).1
    let history := touches device start reads
    (∀ earlier offset length later, reads = earlier ++ (offset, length) :: later →
      let uses := readTouches device (afterReads device start earlier) offset length
      uses.map Touch.number <+: Pages.touched pageSize content.size offset.toNat length ∧
      ((∀ touch ∈ uses, touch.isFailed = false) →
        uses.map Touch.number = Pages.touched pageSize content.size offset.toNat length)) ∧
    ((∀ touch ∈ history, touch.isFailed = false) →
      delivered history =
        reads.flatMap fun read ↦ Pages.touched pageSize content.size read.1.toNat read.2) ∧
    cache.numbers = recent capacity (delivered history) ∧
    cache.pages.length ≤ capacity ∧
    (∀ before touch after, history = before ++ touch :: after →
      touch.calls.map (fun call ↦ (call.offset.toNat, call.length)) =
        if touch.number ∈ recent capacity (delivered before) then []
        else [(touch.number * pageSize, pageSize)]) := by
  intro start cache history
  have hstart : Coherent content pageSize start.1 := by
    simpa only [Nat.max_eq_left hpage] using coherent_empty content pageSize capacity
  have hroom : start.1.capacity = capacity := by rw [capacity_empty, Nat.max_eq_left hcapacity]
  have hempty : start.1.numbers = [] := by rw [numbers, pages_empty, List.map_nil]
  have hrun : Run device start history (afterReads device start reads) :=
    run_touches device reads start
  have hnumbers : cache.numbers = recent capacity (delivered history) := by
    rw [← hroom]
    exact hrun.numbers_eq (by omega) hempty
  refine ⟨?_, ?_, hnumbers, ?_, ?_⟩
  · intro earlier offset length later _
    exact numbers_readTouches hserves hsize (hstart.afterReads hserves earlier) offset length
  · intro hdone
    rw [delivered_eq_map hdone]
    exact numbers_touches hserves hsize reads hstart hdone
  · calc
      cache.pages.length = cache.numbers.length := by rw [numbers, List.length_map]
      _ ≤ capacity := by
        rw [hnumbers]
        exact List.length_take_le _ _
  · intro before touch after hsplit
    obtain ⟨now, next, hbefore, huse⟩ := hrun.use hsplit
    have hlow : touch.number * pageSize < UInt64.size := by
      apply start_lt_of_mem_touches hserves hsize reads hstart
      show touch ∈ history
      simp [hsplit]
    have hcalls := huse.calls_eq (by rwa [hbefore.geometry_eq.1, hstart.size])
    rwa [hbefore.numbers_eq (by omega) hempty, hroom, hbefore.geometry_eq.1, hstart.size] at hcalls

/-- A read of three pages, the last of them empty, pushes the first out of a cache for two, so that the
next read of it calls the source again. -/
theorem numbers_eq_recent_spanning :
    (#[1, 2, 3, 4] : Array UInt8).size < UInt64.size ∧
      (Device.ofSource (.ofArray #[1, 2, 3, 4])).Serves #[1, 2, 3, 4] ∧
      (afterReads (.ofSource (.ofArray #[1, 2, 3, 4])) ((empty 2 2 : PageCache RecentPages), ())
        [(0, 9), (1, 1)]).1.numbers = [0, 2] ∧
      (touches (.ofSource (.ofArray #[1, 2, 3, 4])) ((empty 2 2 : PageCache RecentPages), ())
        [(0, 9), (1, 1)]).map Touch.number = [0, 1, 2, 0] := by
  have hsize : (#[1, 2, 3, 4] : Array UInt8).size < UInt64.size := by decide
  have hserves := Device.ofSource_ofArray_serves #[1, 2, 3, 4]
  obtain ⟨-, hall, hnumbers, -, -⟩ :=
    numbers_eq_recent RecentPages #[1, 2, 3, 4] hsize _ hserves () (by decide : 1 ≤ 2) (by decide : 1 ≤ 2)
      [(0, 9), (1, 1)]
  have hdone : ∀ touch ∈ touches (.ofSource (.ofArray #[1, 2, 3, 4]))
      ((empty 2 2 : PageCache RecentPages), ()) [(0, 9), (1, 1)], touch.isFailed = false := by decide
  rw [hall hdone] at hnumbers
  refine ⟨hsize, hserves, hnumbers.trans (by decide), ?_⟩
  rw [← delivered_eq_map hdone, hall hdone]
  decide

end BinaryLayout.PageCache
