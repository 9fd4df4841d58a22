import BinaryLayout.Proofs.PageTouches
import Mathlib

/-!
# Pages That Could Not Be Read

A source may fail at any call. A read through the cache then fails too, after it has read, kept and
dropped other pages on its way, and the page it failed at is not kept. So what is kept is always what
the source last said about a page, which is the content of that page, and a page about which it last
failed to say something is asked for again.
-/

namespace BinaryLayout

namespace Device

/-- A source of some content that fails at the calls that a schedule names, counted from zero. -/
def scheduled (schedule : Nat → Option Fault) (content : Array UInt8) : Device Nat :=
  ⟨fun count offset length ↦
    match schedule count with
    | some fault => (.failed fault [], count + 1)
    | none => (.done (slice content offset.toNat length), count + 1)⟩

theorem scheduled_serves (schedule : Nat → Option Fault) (content : Array UInt8) :
    (scheduled schedule content).Serves content := by
  intro count after offset length bytes hask
  cases hschedule : schedule count with
  | some fault => simp [scheduled, hschedule] at hask
  | none =>
    simp only [scheduled, hschedule, Prod.mk.injEq, Reply.done.injEq] at hask
    exact hask.1.symm

end Device

namespace PageCache

variable {τ σ : Type} [PageStore τ] [LawfulPageStore τ] {device : Device σ} {content : Array UInt8}

def lastReply? (number : Nat) (history : List Touch) : Option Reply :=
  ((history.filter fun touch ↦ touch.number = number).flatMap Touch.calls).getLast?.map
    Device.Call.reply

theorem lastReply?_concat_of_ne {touch : Touch} {number : Nat} (hother : touch.number ≠ number)
    (history : List Touch) : lastReply? number (history ++ [touch]) = lastReply? number history := by
  simp [lastReply?, hother]

theorem lastReply?_concat_of_no_call {touch : Touch} (hcalls : touch.calls = []) (number : Nat)
    (history : List Touch) : lastReply? number (history ++ [touch]) = lastReply? number history := by
  by_cases hsame : touch.number = number
  · simp [lastReply?, hsame, hcalls]
  · exact lastReply?_concat_of_ne hsame history

theorem lastReply?_concat_of_call (number : Nat) (call : Device.Call) (history : List Touch) :
    lastReply? number (history ++ [⟨number, [call]⟩]) = some call.reply := by
  simp [lastReply?]

/-- A use keeps only pages that the source gave when it was last asked for them. -/
theorem Use.lastReply?_eq {now next : PageCache τ × σ} {touch : Touch}
    (huse : Use device now touch next) {history : List Touch}
    (hnow : ∀ page ∈ now.1.pages, lastReply? page.1 history = some (.done page.2)) :
    ∀ page ∈ next.1.pages, lastReply? page.1 (history ++ [touch]) = some (.done page.2) := by
  cases huse with
  | @hit cache after state number bytes hfound =>
    intro page hpage
    obtain ⟨-, hpages, -⟩ := find?_eq_some hfound
    rw [hpages] at hpage
    rw [lastReply?_concat_of_no_call rfl]
    rcases List.mem_cons.mp hpage with rfl | hkept
    · exact hnow (number, bytes) (mem_pages_of_find? hfound)
    · exact hnow page (List.mem_of_mem_filter hkept)
  | fill hmissing hask =>
    intro page hpage
    rw [pages_add hmissing] at hpage
    rcases List.mem_cons.mp (List.mem_of_mem_take hpage) with rfl | hkept
    · exact lastReply?_concat_of_call _ _ _
    · rw [lastReply?_concat_of_ne (ne_of_find?_eq_none hmissing hkept)]
      exact hnow page hkept
  | failure hmissing hask =>
    intro page hpage
    rw [lastReply?_concat_of_ne (ne_of_find?_eq_none hmissing hpage)]
    exact hnow page hpage

/-- So does a run. -/
theorem Run.lastReply?_eq {start now : PageCache τ × σ} {history : List Touch}
    (hrun : Run device start history now) (hstart : start.1.pages = []) :
    ∀ page ∈ now.1.pages, lastReply? page.1 history = some (.done page.2) := by
  induction hrun with
  | nil => simp [hstart]
  | snoc hrun huse ih => exact huse.lastReply?_eq ih

/-- A use of a page that is not kept calls the source for it. -/
theorem Use.calls_or_kept {now next : PageCache τ × σ} {touch : Touch}
    (huse : Use device now touch next) :
    (∃ reply, touch.calls =
        [⟨(touch.number * now.1.pageSize).toUInt64, now.1.pageSize, reply⟩]) ∨
      ∃ bytes, (touch.number, bytes) ∈ now.1.pages := by
  cases huse with
  | hit hfound => exact .inr ⟨_, mem_pages_of_find? hfound⟩
  | fill hmissing hask => exact .inl ⟨_, rfl⟩
  | failure hmissing hask => exact .inl ⟨_, rfl⟩

/-- A failing source does not spoil the cache. For any source that gives the content where it does not
fail, any reads before and any read: the read fails just if a call that it made failed, and otherwise
gives what a direct read gives; afterwards every page that is kept is the page of the content, and is
what the source gave at the last call for it; and whenever a page was used for which the source had
not been called or had failed at the last call, it was called for it. -/
theorem read_of_failing (τ : Type) [PageStore τ] [LawfulPageStore τ] (content : Array UInt8)
    (hsize : content.size < UInt64.size) (device : Device σ) (hserves : device.Serves content)
    (state : σ) (pageSize capacity : Nat) (earlier : List (UInt64 × Nat)) (offset : UInt64)
    (length : Nat) :
    let start := ((empty pageSize capacity : PageCache τ), state)
    let now := afterReads device start earlier
    let reply := (now.1.read device now.2 offset length).1
    let cache := (now.1.read device now.2 offset length).2.1
    let uses := readTouches device now offset length
    let history := touches device start earlier ++ uses
    (reply.isFailed ↔ ∃ touch ∈ uses, ∃ call ∈ touch.calls, call.reply.isFailed) ∧
    (∀ bytes, reply = .done bytes → (Source.ofArray content).read offset length = .done bytes) ∧
    (∀ page ∈ cache.pages,
      page.2 = slice content (page.1 * cache.pageSize) cache.pageSize ∧
      lastReply? page.1 history = some (.done page.2)) ∧
    (∀ before touch after, history = before ++ touch :: after →
      (∀ bytes, lastReply? touch.number before ≠ some (.done bytes)) →
      ∃ answer, touch.calls =
        [⟨(touch.number * cache.pageSize).toUInt64, cache.pageSize, answer⟩]) := by
  intro start now reply cache uses history
  have hnow : Coherent content (max pageSize 1) now.1 :=
    (coherent_empty content pageSize capacity).afterReads hserves earlier
  have hcache : Coherent content (max pageSize 1) cache := hnow.read hserves offset length
  have hrun : Run device start history (now.1.read device now.2 offset length).2 :=
    (run_touches device earlier start).append (run_readTouches device now offset length)
  refine ⟨?_, ?_, ?_, ?_⟩
  · have hfailed : reply.isFailed = uses.any Touch.isFailed := isFailed_read device now offset length
    simp [hfailed, Touch.isFailed]
  · intro bytes hdone
    have hbytes : bytes = slice content offset.toNat length :=
      (part_faithful τ hserves now.1.pageSize).readFrom_gives now.1.pageSize_pos hsize.le _ _ _ _ _
        (hnow.size ▸ hnow) le_rfl hdone
    rw [hbytes]
    rfl
  · intro page hpage
    refine ⟨?_, hrun.lastReply?_eq (pages_empty _ _) page hpage⟩
    rw [hcache.size]
    exact hcache.pages page hpage
  · intro before touch after hsplit hasked
    obtain ⟨earlierCache, next, hbefore, huse⟩ := hrun.use hsplit
    have hpages : earlierCache.1.pageSize = cache.pageSize :=
      hbefore.geometry_eq.1.trans hrun.geometry_eq.1.symm
    rcases huse.calls_or_kept with hcalls | ⟨bytes, hkept⟩
    · rwa [hpages] at hcalls
    · exact absurd (hbefore.lastReply?_eq (pages_empty _ _) _ hkept) (hasked bytes)

/-- The second of the calls fails, in the middle of a read. The page it was for is not kept, and the
next read calls the source for it again. -/
theorem read_of_failing_once :
    (#[1, 2, 3, 4, 5] : Array UInt8).size < UInt64.size ∧
      (Device.scheduled (fun count ↦ if count = 1 then some .interrupted else none)
        #[1, 2, 3, 4, 5]).Serves #[1, 2, 3, 4, 5] ∧
      let device := Device.scheduled (fun count ↦ if count = 1 then some .interrupted else none)
        #[1, 2, 3, 4, 5]
      let first := (empty 2 2 : PageCache RecentPages).read device 0 0 5
      let second := first.2.1.read device first.2.2 0 5
      first.1.isFailed ∧ first.2.1.pages = [(0, [1, 2])] ∧
        second.1 = .done [1, 2, 3, 4, 5] ∧ second.2.1.pages = [(2, [5]), (1, [3, 4])] ∧
        (Source.ofArray #[1, 2, 3, 4, 5]).read 0 5 = .done [1, 2, 3, 4, 5] := by
  have hsize : (#[1, 2, 3, 4, 5] : Array UInt8).size < UInt64.size := by decide
  have hserves := Device.scheduled_serves (fun count ↦ if count = 1 then some .interrupted else none)
    #[1, 2, 3, 4, 5]
  refine ⟨hsize, hserves, ?_⟩
  intro device first second
  have hsecond : second.1 = .done [1, 2, 3, 4, 5] := by decide
  obtain ⟨hfails, -, -, -⟩ := read_of_failing RecentPages _ hsize device hserves 0 2 2 [] 0 5
  obtain ⟨-, hgives, -, -⟩ := read_of_failing RecentPages _ hsize device hserves 0 2 2 [(0, 5)] 0 5
  exact ⟨hfails.mpr (by decide), by decide, hsecond, by decide, hgives _ hsecond⟩

end PageCache

end BinaryLayout
