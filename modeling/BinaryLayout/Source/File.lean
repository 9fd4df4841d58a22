import BinaryLayout.Source.Basic

/-!
# Reading Files

The operating system may answer a positional read with fewer bytes than asked for, or interrupt it. A
file is read again until the buffer is full or the file ends.
-/

namespace BinaryLayout.Source.File

/-- How the system answers the positional reads of a file, by the number of the call, where it starts
and how many bytes it asks for. -/
structure System (ε : Type) where
  answer : (call position length : Nat) → Except ε (List UInt8)
  /-- Whether an error only says that the call was interrupted. -/
  interrupts : ε → Bool
  /-- No call is interrupted from this one on. -/
  patience : Nat
  settles : ∀ {call position length : Nat} {error : ε},
    answer call position length = .error error → interrupts error = true → call < patience

variable {ε : Type}

/-- How far a read has come. -/
structure Progress where
  calls : Nat
  total : Nat
  buffer : List UInt8

namespace Progress

def start (buffer : List UInt8) : Progress :=
  ⟨0, 0, buffer⟩

/-- Where the next call starts, at the last position at most. -/
def position (progress : Progress) (offset : UInt64) : Nat :=
  min (offset.toNat + progress.total) (UInt64.size - 1)

/-- How many bytes the buffer still has room for. -/
def missing (progress : Progress) : Nat :=
  progress.buffer.length - progress.total

/-- After a call that put bytes into the rest of the buffer. -/
def after (progress : Progress) (bytes : List UInt8) : Progress where
  calls := progress.calls + 1
  total := progress.total + bytes.length
  buffer := progress.buffer.take progress.total ++ bytes ++
    progress.buffer.drop (progress.total + bytes.length)

/-- How many calls may still be interrupted or read a byte. -/
def ahead (system : System ε) (progress : Progress) : Nat :=
  (system.patience - progress.calls) + progress.missing

theorem ahead_interrupted_lt {system : System ε} {progress : Progress} {position length : Nat}
    {error : ε} (hanswer : system.answer progress.calls position length = .error error)
    (hinterrupts : system.interrupts error = true) :
    (progress.after []).ahead system < progress.ahead system := by
  have hcall := system.settles hanswer hinterrupts
  simp only [ahead, missing, after, List.append_nil, List.length_nil, Nat.add_zero,
    List.take_append_drop]
  omega

theorem ahead_after_lt (system : System ε) {progress : Progress} {bytes : List UInt8}
    (hmissing : 0 < progress.missing) (hbytes : bytes ≠ []) :
    (progress.after bytes).ahead system < progress.ahead system := by
  have hlength := List.length_pos_iff.mpr hbytes
  simp only [ahead, missing, after, List.length_append, List.length_take, List.length_drop] at *
  omega

end Progress

/-- How a read ends. -/
structure Ending (ε : Type) where
  error? : Option ε
  progress : Progress

namespace Ending

/-- The number of bytes that were read, or the error. -/
def count (ending : Ending ε) : Except ε Nat :=
  ending.error?.elim (.ok ending.progress.total) .error

def reply (ending : Ending Fault) : Reply :=
  let written := ending.progress.buffer.take ending.progress.total
  ending.error?.elim (.done written) (.failed · written)

end Ending

/-- Reads until the buffer is full, the file ends or a read fails. An interrupted read is made again. -/
def fill (system : System ε) (offset : UInt64) (progress : Progress) : Ending ε :=
  if hmissing : 0 < progress.missing then
    match hanswer : system.answer progress.calls (progress.position offset) progress.missing with
    | .ok bytes =>
      if hbytes : bytes = [] then ⟨none, progress⟩
      else
        have := Progress.ahead_after_lt system hmissing hbytes
        fill system offset (progress.after bytes)
    | .error error =>
      if hinterrupts : system.interrupts error = true then
        have := Progress.ahead_interrupted_lt hanswer hinterrupts
        fill system offset (progress.after [])
      else ⟨some error, progress⟩
  else ⟨none, progress⟩
termination_by progress.ahead system

/-- How the system answers one positional read. -/
inductive Answer
  /-- It gives at most that many bytes, and one at least if there are any. -/
  | gives (most : Nat)
  | fails (fault : Fault)
deriving DecidableEq, Repr

/-- A read whose end a signed 64-bit integer cannot hold is refused. -/
def offsetLimit : Nat := 0x8000000000000000

/-- One positional read of a non-empty buffer. -/
def positional (content : Array UInt8) (answer : Answer) (offset length : Nat) :
    Except Fault (List UInt8) :=
  match answer with
  | .fails fault => .error fault
  | .gives most =>
    if offsetLimit ≤ offset + length then .error .invalidInput
    else .ok (slice content offset (min length (max most 1)))

theorem lt_length_of_interrupted {content : Array UInt8} {answers : List Answer}
    {call position length : Nat} {fault : Fault}
    (hanswer : positional content (answers.getD call (.gives length)) position length =
      .error fault) (hfault : decide (fault = .interrupted) = true) : call < answers.length := by
  by_cases hcall : call < answers.length
  · exact hcall
  · rw [List.getD_eq_getElem?_getD, List.getElem?_eq_none (Nat.le_of_not_lt hcall)] at hanswer
    obtain rfl := of_decide_eq_true hfault
    simp only [Option.getD_none, positional] at hanswer
    split at hanswer <;> cases hanswer

/-- A file with the given content. `answers` are those of the system as far as they are known; after
that it gives all there is. -/
def System.ofAnswers (content : Array UInt8) (answers : List Answer) : System Fault where
  answer call position length :=
    positional content (answers.getD call (.gives length)) position length
  interrupts fault := decide (fault = .interrupted)
  patience := answers.length
  settles := lt_length_of_interrupted

end File

/-- A file with the given content. -/
def ofFile (content : Array UInt8) : Source :=
  ⟨fun offset length ↦
    (File.fill (.ofAnswers content []) offset (.start (List.replicate length 0))).reply⟩

end BinaryLayout.Source
