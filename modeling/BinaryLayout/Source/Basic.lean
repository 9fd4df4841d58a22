/-!
# Byte Sources

A source is read at an offset, up to a number of bytes. It gives as many as there are, and past its end
none; it can also fail.
-/

namespace BinaryLayout

/-- Why a read fails. -/
inductive Fault
  | permissionDenied
  | invalidInput
  | interrupted
deriving DecidableEq, Repr

/-- The outcome of a read. -/
inductive Reply
  | done (bytes : List UInt8)
  /-- A failure, with the bytes that were read before it. -/
  | failed (fault : Fault) (written : List UInt8)
deriving DecidableEq, Repr

namespace Reply

/-- The bytes of a successful read, none after a failure. -/
def available : Reply → List UInt8
  | .done bytes => bytes
  | .failed _ _ => []

/-- The bytes that were put into the caller's buffer. -/
def written : Reply → List UInt8
  | .done bytes => bytes
  | .failed _ bytes => bytes

/-- The outcome of a read that starts with more bytes. -/
def behind (bytes : List UInt8) : Reply → Reply
  | .done rest => .done (bytes ++ rest)
  | .failed fault written => .failed fault (bytes ++ written)

end Reply

structure Source where
  read : UInt64 → Nat → Reply

/-- The bytes of an array from an offset on, at most `length`. -/
def slice (bytes : Array UInt8) (offset length : Nat) : List UInt8 :=
  if offset < bytes.size then (bytes.extract offset (offset + length)).toList else []

namespace Source

def ofArray (bytes : Array UInt8) : Source :=
  ⟨fun offset length ↦ .done (slice bytes offset.toNat length)⟩

/-- A source that gives no more than `most` bytes at a time. -/
def limited (most : Nat) (source : Source) : Source :=
  ⟨fun offset length ↦ source.read offset (min length most)⟩

/-- A source that fails where a read starts in one of the ranges. -/
def refusing (ranges : List (Nat × Nat)) (source : Source) : Source :=
  ⟨fun offset length ↦
    if ranges.any fun (low, high) ↦ low ≤ offset.toNat && offset.toNat < high then
      .failed .permissionDenied []
    else source.read offset length⟩

end Source

end BinaryLayout
