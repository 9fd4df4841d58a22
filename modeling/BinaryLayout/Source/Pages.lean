import BinaryLayout.Source.Basic

/-!
# Reading by Pages

A read can be put together from pages of one size. It goes on as long as the pages are full, and ends at
the first that is short or cannot be read.
-/

namespace BinaryLayout

namespace Pages

/-- Gives of the page with a number at most `wanted` bytes, from place `within` on. -/
abbrev Part (σ : Type) :=
  σ → (number within wanted : Nat) → Except Fault (List UInt8) × σ

variable {σ : Type}

/-- Reads from a position on until `wanted` bytes are read. Every round but the last reads a byte, so
`wanted` rounds are enough. -/
@[specialize]
def readFrom (pageSize : Nat) (part : Part σ) : Nat → Nat → Nat → σ → Reply × σ
  | 0, _, _, state => (.done [], state)
  | rounds + 1, position, wanted, state =>
    if wanted = 0 ∨ UInt64.size ≤ position then (.done [], state)
    else
      let within := position % pageSize
      match part state (position / pageSize) within wanted with
      | (.error fault, next) => (.failed fault [], next)
      | (.ok piece, next) =>
        if piece.isEmpty ∨ within + piece.length < pageSize then (.done piece, next)
        else
          let (rest, after) :=
            readFrom pageSize part rounds (position + piece.length) (wanted - piece.length) next
          (rest.behind piece, after)

/-- Reads at an offset, up to a number of bytes. -/
@[inline]
def read (pageSize : Nat) (part : Part σ) (state : σ) (offset : UInt64) (length : Nat) : Reply × σ :=
  readFrom pageSize part length offset.toNat length state

/-- A page of a source. -/
def ofSource (source : Source) (pageSize number : Nat) : Except Fault (List UInt8) :=
  match source.read (number * pageSize).toUInt64 pageSize with
  | .done bytes => .ok bytes
  | .failed fault _ => .error fault

/-- The pages of a source in front of the one with the given number. -/
def front (source : Source) (pageSize count : Nat) : Array (Except Fault (Array UInt8)) :=
  (Array.range count).map fun number ↦ (ofSource source pageSize number).map List.toArray

/-- A part of a page, which is read only if it is not one of the pages in front. -/
def partOf (source : Source) (pageSize : Nat) (pages : Array (Except Fault (Array UInt8)))
    (number within wanted : Nat) : Except Fault (List UInt8) :=
  match pages[number]? with
  | some (.ok bytes) => .ok (slice bytes within wanted)
  | some (.error fault) => .error fault
  | none => (ofSource source pageSize number).map fun bytes ↦ (bytes.drop within).take wanted

end Pages

/-- A source read by pages. Since it does not change, no page of its first `ahead` bytes has to be read
more than once. -/
def Source.paged (pageSize ahead : Nat) (source : Source) : Source :=
  let size := max pageSize 1
  let pages := Pages.front source size (ahead / size + 1)
  ⟨fun offset length ↦
    (Pages.read size
      (fun _ number within wanted ↦ (Pages.partOf source size pages number within wanted, ()))
      () offset length).1⟩

end BinaryLayout
