import BinaryLayout.Source.PageStore
import BinaryLayout.Source.Pages

/-!
# Page Cache

A page cache reads whole pages of a device and keeps them in a store. A page at the end of the content is
kept as short as it is, and a page that could not be read is not kept.
-/

namespace BinaryLayout

/-- Something that answers reads and may change when it does. -/
structure Device (σ : Type) where
  ask : σ → UInt64 → Nat → Reply × σ

structure PageCache (τ : Type) where
  pageSize : Nat
  store : τ
  pageSize_pos : 0 < pageSize

namespace PageCache

def defaultPageSize : Nat := 4096

def defaultCapacity : Nat := 100

variable {τ σ : Type} [PageStore τ]

/-- An empty cache. Its pages have at least one byte, and it keeps at least one of them. -/
def empty (pageSize capacity : Nat) : PageCache τ :=
  { pageSize := max pageSize 1
    store := PageStore.empty (max capacity 1)
    pageSize_pos := Nat.le_max_right pageSize 1 }

def pages (cache : PageCache τ) : List (Nat × List UInt8) :=
  PageStore.pages cache.store

def capacity (cache : PageCache τ) : Nat :=
  PageStore.capacity cache.store

/-- A page that is kept, with the cache after its use. -/
def find? (cache : PageCache τ) (number : Nat) : Option (List UInt8 × PageCache τ) :=
  (PageStore.get? cache.store number).map fun (bytes, store) ↦ (bytes, { cache with store })

/-- The cache with another page, which was just used. -/
def add (cache : PageCache τ) (number : Nat) (bytes : List UInt8) : PageCache τ :=
  { cache with store := PageStore.insert cache.store number bytes }

/-- A page, from the cache or else from the device. -/
def page (device : Device σ) (cache : PageCache τ) (state : σ) (number : Nat) :
    Except Fault (List UInt8) × PageCache τ × σ :=
  match cache.find? number with
  | some (bytes, after) => (.ok bytes, after, state)
  | none =>
    match device.ask state (number * cache.pageSize).toUInt64 cache.pageSize with
    | (.done bytes, after) => (.ok bytes, cache.add number bytes, after)
    | (.failed fault _, after) => (.error fault, cache, after)

/-- A part of a page, from the cache or else from the device. -/
def part (device : Device σ) : Pages.Part (PageCache τ × σ) :=
  fun (cache, state) number within wanted ↦
    let (outcome, after) := cache.page device state number
    (outcome.map fun bytes ↦ (bytes.drop within).take wanted, after)

/-- Reads through the cache. -/
def read (device : Device σ) (cache : PageCache τ) (state : σ) (offset : UInt64) (length : Nat) :
    Reply × PageCache τ × σ :=
  Pages.read cache.pageSize (part device) (cache, state) offset length

end PageCache

end BinaryLayout
