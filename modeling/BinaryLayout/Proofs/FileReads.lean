import BinaryLayout.Proofs.PageCoherence
import BinaryLayout.Source.File
import Mathlib

/-!
# Reading a File in Pieces

The system may answer the calls for one read in pieces of any sizes and interrupt any of them, as
long as it does not do so forever. What is read in the end is a slice of the content all the same:
after every call the front of the buffer is the slice read so far and the rest is as it was. The
number of calls is not bounded here, only known to be finite.
-/

namespace BinaryLayout.Source

namespace File

variable {ε : Type} {content : Array UInt8} {system : System ε} {offset : UInt64}
  {buffer : List UInt8}

/-- The system gives bytes of the content where it does not fail: not more than it was asked for,
and none just if the call starts at the end or behind it. -/
def System.Serves (system : System ε) (content : Array UInt8) : Prop :=
  ∀ {call position length : Nat} {bytes : List UInt8},
    0 < length → position + length < offsetLimit →
    system.answer call position length = .ok bytes →
    bytes.length ≤ min length (content.size - position) ∧
    (bytes = [] ↔ content.size ≤ position) ∧
    bytes = slice content position bytes.length

def Progress.outcome (progress : Progress) (system : System ε) (offset : UInt64) :
    Except ε (List UInt8) :=
  system.answer progress.calls (progress.position offset) progress.missing

/-- One call after which the loop goes on. -/
inductive Step (system : System ε) (offset : UInt64) : Progress → Progress → Prop
  | gives {progress : Progress} {bytes : List UInt8} (hmissing : 0 < progress.missing)
      (houtcome : progress.outcome system offset = .ok bytes) (hbytes : bytes ≠ []) :
      Step system offset progress (progress.after bytes)
  | interrupted {progress : Progress} {error : ε} (hmissing : 0 < progress.missing)
      (houtcome : progress.outcome system offset = .error error)
      (hinterrupts : system.interrupts error = true) :
      Step system offset progress (progress.after [])

/-- The loop comes to a call that fails, and not because it is interrupted. -/
def Fails (system : System ε) (offset : UInt64) (buffer : List UInt8) (error : ε) : Prop :=
  system.interrupts error = false ∧
    ∃ progress, Relation.ReflTransGen (Step system offset) (.start buffer) progress ∧
      0 < progress.missing ∧ progress.outcome system offset = .error error

inductive Stops (system : System ε) (offset : UInt64) : Progress → Ending ε → Prop
  | full {progress : Progress} (hmissing : progress.missing = 0) :
      Stops system offset progress ⟨none, progress⟩
  | ends {progress : Progress} (hmissing : 0 < progress.missing)
      (houtcome : progress.outcome system offset = .ok []) :
      Stops system offset progress ⟨none, progress⟩
  | fails {progress : Progress} {error : ε} (hmissing : 0 < progress.missing)
      (houtcome : progress.outcome system offset = .error error)
      (hinterrupts : system.interrupts error = false) :
      Stops system offset progress ⟨some error, progress⟩

theorem fill_of_ok {progress : Progress} {bytes : List UInt8} (hmissing : 0 < progress.missing)
    (houtcome : progress.outcome system offset = .ok bytes) :
    fill system offset progress =
      if bytes = [] then ⟨none, progress⟩ else fill system offset (progress.after bytes) := by
  rw [fill, dif_pos hmissing]
  split
  · rename_i given hanswer
    obtain rfl := Except.ok.inj (hanswer.symm.trans houtcome)
    rfl
  · rename_i fault hanswer
    cases hanswer.symm.trans houtcome

theorem fill_of_error {progress : Progress} {error : ε} (hmissing : 0 < progress.missing)
    (houtcome : progress.outcome system offset = .error error) :
    fill system offset progress =
      if system.interrupts error = true then fill system offset (progress.after [])
      else ⟨some error, progress⟩ := by
  rw [fill, dif_pos hmissing]
  split
  · rename_i bytes hanswer
    cases hanswer.symm.trans houtcome
  · rename_i found hanswer
    obtain rfl := Except.error.inj (hanswer.symm.trans houtcome)
    rfl

theorem fill_of_step {progress next : Progress} (hstep : Step system offset progress next) :
    fill system offset progress = fill system offset next := by
  cases hstep with
  | gives hmissing houtcome hbytes => rw [fill_of_ok hmissing houtcome, if_neg hbytes]
  | interrupted hmissing houtcome hinterrupts =>
    rw [fill_of_error hmissing houtcome, if_pos hinterrupts]

theorem fill_of_steps {progress next : Progress}
    (hsteps : Relation.ReflTransGen (Step system offset) progress next) :
    fill system offset progress = fill system offset next := by
  induction hsteps with
  | refl => rfl
  | tail _ hstep ih => exact ih.trans (fill_of_step hstep)

theorem fill_of_stops {progress : Progress} {ending : Ending ε}
    (hstops : Stops system offset progress ending) : fill system offset progress = ending := by
  cases hstops with
  | full hmissing => rw [fill, dif_neg (by omega)]
  | ends hmissing houtcome => rw [fill_of_ok hmissing houtcome, if_pos rfl]
  | fails hmissing houtcome hinterrupts =>
    rw [fill_of_error hmissing houtcome, if_neg (Bool.eq_false_iff.mp hinterrupts)]

/-- The loop stops, since the system does not interrupt it forever. The induction is that of the
loop: on the interruptions and bytes that are still ahead. -/
theorem exists_stops (system : System ε) (offset : UInt64) (progress : Progress) :
    ∃ last ending, Relation.ReflTransGen (Step system offset) progress last ∧
      Stops system offset last ending := by
  induction progress using fill.induct system offset with
  | case1 progress hmissing houtcome => exact ⟨_, _, .refl, .ends hmissing houtcome⟩
  | case2 progress hmissing bytes houtcome hbytes _ ih =>
    obtain ⟨last, ending, hsteps, hstops⟩ := ih
    exact ⟨last, ending, .head (.gives hmissing houtcome hbytes) hsteps, hstops⟩
  | case3 progress hmissing error houtcome hinterrupts _ ih =>
    obtain ⟨last, ending, hsteps, hstops⟩ := ih
    exact ⟨last, ending, .head (.interrupted hmissing houtcome hinterrupts) hsteps, hstops⟩
  | case4 progress hmissing error houtcome hinterrupts =>
    exact ⟨_, _, .refl, .fails hmissing houtcome (Bool.eq_false_iff.mpr hinterrupts)⟩
  | case5 progress hmissing => exact ⟨_, _, .refl, .full (by omega)⟩

/-! ## What is in the buffer after every call -/

/-- The front of the buffer is a slice of the content, as long as the read has come, and the rest is
that of the buffer at the start. -/
structure Filled (content : Array UInt8) (offset : UInt64) (buffer : List UInt8)
    (progress : Progress) : Prop where
  total_le : progress.total ≤ buffer.length
  length_eq : (slice content offset.toNat progress.total).length = progress.total
  buffer_eq : progress.buffer =
    slice content offset.toNat progress.total ++ buffer.drop progress.total

namespace Filled

variable {progress next : Progress}

theorem start (content : Array UInt8) (offset : UInt64) (buffer : List UInt8) :
    Filled content offset buffer (.start buffer) where
  total_le := Nat.zero_le _
  length_eq := by simp [Progress.start, length_slice]
  buffer_eq := by simp [Progress.start, slice_eq_take_drop]

theorem missing_eq (hfilled : Filled content offset buffer progress) :
    progress.missing = buffer.length - progress.total := by
  have htotal := hfilled.total_le
  rw [Progress.missing, hfilled.buffer_eq, List.length_append, hfilled.length_eq, List.length_drop]
  omega

/-- The position of the next call does not saturate. -/
theorem position_eq (hfilled : Filled content offset buffer progress)
    (hend : offset.toNat + buffer.length < offsetLimit) :
    progress.position offset = offset.toNat + progress.total := by
  have htotal := hfilled.total_le
  simp only [Progress.position, offsetLimit, UInt64.size] at *
  omega

/-- What the system promises, for the call that the loop makes. -/
theorem served (hfilled : Filled content offset buffer progress) (hserves : system.Serves content)
    (hend : offset.toNat + buffer.length < offsetLimit) (hmissing : 0 < progress.missing)
    {bytes : List UInt8} (houtcome : progress.outcome system offset = .ok bytes) :
    bytes.length ≤ buffer.length - progress.total ∧
    (bytes = [] → content.size ≤ offset.toNat + progress.total) ∧
    bytes = slice content (offset.toNat + progress.total) bytes.length := by
  have htotal := hfilled.total_le
  unfold Progress.outcome at houtcome
  rw [hfilled.position_eq hend] at houtcome
  rw [hfilled.missing_eq] at houtcome hmissing
  obtain ⟨hlength, hnone, hslice⟩ := hserves hmissing (by omega) houtcome
  exact ⟨by omega, hnone.mp, hslice⟩

theorem after (hfilled : Filled content offset buffer progress) {bytes : List UInt8}
    (hlength : bytes.length ≤ buffer.length - progress.total)
    (hslice : bytes = slice content (offset.toNat + progress.total) bytes.length) :
    Filled content offset buffer (progress.after bytes) := by
  have htotal := hfilled.total_le
  have hgrown : slice content offset.toNat (progress.total + bytes.length) =
      slice content offset.toNat progress.total ++ bytes := by
    rw [← slice_append, ← hslice]
  refine ⟨?_, ?_, ?_⟩
  · simp only [Progress.after]
    omega
  · simp only [Progress.after]
    rw [hgrown, List.length_append, hfilled.length_eq]
  · simp only [Progress.after]
    have hfront : progress.buffer.take progress.total =
        slice content offset.toNat progress.total := by
      rw [hfilled.buffer_eq, List.take_left' hfilled.length_eq]
    have hrest : progress.buffer.drop progress.total = buffer.drop progress.total := by
      rw [hfilled.buffer_eq, List.drop_left' hfilled.length_eq]
    rw [hgrown, hfront, ← List.drop_drop, hrest, List.drop_drop]

theorem step (hfilled : Filled content offset buffer progress) (hserves : system.Serves content)
    (hend : offset.toNat + buffer.length < offsetLimit) (hstep : Step system offset progress next) :
    Filled content offset buffer next := by
  cases hstep with
  | gives hmissing houtcome _ =>
    obtain ⟨hlength, -, hslice⟩ := hfilled.served hserves hend hmissing houtcome
    exact hfilled.after hlength hslice
  | interrupted _ _ _ => exact hfilled.after (Nat.zero_le _) (by simp [slice_eq_take_drop])

theorem steps (hserves : system.Serves content)
    (hend : offset.toNat + buffer.length < offsetLimit)
    (hsteps : Relation.ReflTransGen (Step system offset) (.start buffer) progress) :
    Filled content offset buffer progress := by
  induction hsteps with
  | refl => exact start content offset buffer
  | tail _ hstep ih => exact ih.step hserves hend hstep

/-- A read that stops without an error has come as far as the slice goes. -/
theorem slice_eq_of_stops (hfilled : Filled content offset buffer progress)
    (hserves : system.Serves content) (hend : offset.toNat + buffer.length < offsetLimit)
    {last : Progress} (hstops : Stops system offset progress ⟨none, last⟩) :
    slice content offset.toNat progress.total = slice content offset.toNat buffer.length := by
  have htotal := hfilled.total_le
  cases hstops with
  | full hmissing =>
    rw [hfilled.missing_eq] at hmissing
    rw [show progress.total = buffer.length by omega]
  | ends hmissing houtcome =>
    -- Nothing was given, so the content has ended and the rest of the slice is empty.
    obtain ⟨-, hpast, -⟩ := hfilled.served hserves hend hmissing houtcome
    obtain ⟨rest, hrest⟩ := Nat.exists_eq_add_of_le htotal
    rw [hrest, ← slice_append, slice_eq_nil content rest (hpast rfl), List.append_nil]

end Filled

theorem fill_of_fails {error : ε} (hfails : Fails system offset buffer error) :
    (fill system offset (.start buffer)).count = .error error := by
  obtain ⟨hinterrupts, progress, hsteps, hmissing, houtcome⟩ := hfails
  rw [fill_of_steps hsteps, fill_of_stops (.fails hmissing houtcome hinterrupts)]
  rfl

theorem fill_of_not_fails (hserves : system.Serves content)
    (hend : offset.toNat + buffer.length < offsetLimit)
    (hnone : ∀ error, ¬Fails system offset buffer error) :
    let bytes := slice content offset.toNat buffer.length
    let ending := fill system offset (.start buffer)
    ending.error? = none ∧ ending.progress.total = bytes.length ∧
      ending.progress.buffer = bytes ++ buffer.drop bytes.length := by
  intro bytes ending
  obtain ⟨last, stop, hsteps, hstops⟩ := exists_stops system offset (.start buffer)
  have hending : ending = stop := (fill_of_steps hsteps).trans (fill_of_stops hstops)
  have hfilled := Filled.steps hserves hend hsteps
  obtain rfl : stop = ⟨none, last⟩ := by
    cases hstops with
    | full _ => rfl
    | ends _ _ => rfl
    | fails hmissing houtcome hinterrupts =>
      exact absurd ⟨hinterrupts, last, hsteps, hmissing, houtcome⟩ (hnone _)
  have hslice : slice content offset.toNat last.total = bytes :=
    hfilled.slice_eq_of_stops hserves hend hstops
  have hlength : bytes.length = last.total := hslice ▸ hfilled.length_eq
  rw [hending, hlength, hfilled.buffer_eq, hslice]
  exact ⟨rfl, rfl, rfl⟩

theorem System.ofAnswers_serves (content : Array UInt8) (answers : List Answer) :
    (System.ofAnswers content answers).Serves content := by
  intro call position length bytes hlength hlimit hanswer
  simp only [ofAnswers, positional] at hanswer
  split at hanswer
  · cases hanswer
  · rename_i most _
    rw [if_neg (by omega)] at hanswer
    obtain rfl := Except.ok.inj hanswer
    have hcount := length_slice content position (min length (max most 1))
    refine ⟨by omega, ?_, ?_⟩
    · rw [← List.length_eq_zero_iff]
      omega
    · rw [hcount, slice_eq_take_drop, slice_eq_take_drop, List.take_eq_take_iff]
      simp

/-- A system that only cuts and interrupts does not make a read fail. -/
theorem not_fails_ofAnswers {answers : List Answer}
    (hend : offset.toNat + buffer.length < offsetLimit)
    (hanswers : ∀ fault, .fails fault ∈ answers → fault = .interrupted) (fault : Fault) :
    ¬Fails (.ofAnswers content answers) offset buffer fault := by
  rintro ⟨hinterrupts, progress, hsteps, hmissing, houtcome⟩
  have hfault : fault ≠ .interrupted := of_decide_eq_false hinterrupts
  have hfilled := Filled.steps (System.ofAnswers_serves content answers) hend hsteps
  have htotal := hfilled.total_le
  simp only [Progress.outcome, System.ofAnswers, positional] at houtcome
  split at houtcome
  · rename_i found hfound
    obtain rfl := Except.error.inj houtcome
    -- Behind the end of the list every call is answered in full, so the fault is on the list.
    rw [List.getD_eq_getElem?_getD] at hfound
    cases hanswer : answers[progress.calls]? with
    | none => simp [hanswer] at hfound
    | some answer =>
      rw [hanswer, Option.getD_some] at hfound
      exact hfault (hanswers _ (hfound ▸ List.mem_of_getElem? hanswer))
  · rw [hfilled.position_eq hend, hfilled.missing_eq, if_neg (by omega)] at houtcome
    cases houtcome

/-- Reading a file gives what reading its content gives, however the system cuts the calls into
pieces and whichever it interrupts: the same number of bytes and the same bytes in the front of the
buffer, with the rest of the buffer as it was. A call that fails otherwise ends the read with its
error. -/
theorem fill_eq_slice {ε : Type} (content : Array UInt8) (system : System ε)
    (hserves : system.Serves content) (offset : UInt64) (buffer : List UInt8)
    (hend : offset.toNat + buffer.length < offsetLimit) :
    let ending := fill system offset (.start buffer)
    (∀ error, Fails system offset buffer error → ending.count = .error error) ∧
    ((∀ error, ¬Fails system offset buffer error) →
      ∃ bytes, (Source.ofArray content).read offset buffer.length = .done bytes ∧
        ending.count = .ok bytes.length ∧
        ending.progress.buffer = bytes ++ buffer.drop bytes.length) := by
  intro ending
  refine ⟨fun error hfails ↦ fill_of_fails hfails, fun hnone ↦ ?_⟩
  obtain ⟨herror, htotal, hbuffer⟩ := fill_of_not_fails hserves hend hnone
  refine ⟨slice content offset.toNat buffer.length, rfl, ?_, hbuffer⟩
  rw [Ending.count, herror, htotal]
  rfl

/-- A read in pieces of two bytes and one, interrupted twice, and a read whose second call fails. -/
theorem fill_eq_slice_pieces :
    let content : Array UInt8 := #[1, 2, 3, 4, 5]
    let pieces := System.ofAnswers content
      [.fails .interrupted, .gives 2, .fails .interrupted, .gives 1]
    let broken := System.ofAnswers content [.gives 2, .fails .permissionDenied]
    let buffer : List UInt8 := [9, 9, 9, 9, 9, 9]
    (pieces.Serves content ∧ broken.Serves content ∧
      (1 : UInt64).toNat + buffer.length < offsetLimit ∧
      (∀ fault, ¬Fails pieces 1 buffer fault) ∧ Fails broken 1 buffer .permissionDenied) ∧
    (fill pieces 1 (.start buffer)).count = .ok 4 ∧
    (fill pieces 1 (.start buffer)).progress.buffer = [2, 3, 4, 5, 9, 9] ∧
    (fill broken 1 (.start buffer)).count = .error .permissionDenied := by
  intro content pieces broken buffer
  have hpieces : pieces.Serves content := System.ofAnswers_serves content _
  have hbroken : broken.Serves content := System.ofAnswers_serves content _
  have hend : (1 : UInt64).toNat + buffer.length < offsetLimit := by decide
  have hwhole : ∀ fault, ¬Fails pieces 1 buffer fault := not_fails_ofAnswers hend (by simp)
  have hfails : Fails broken 1 buffer .permissionDenied :=
    ⟨by decide, Progress.after (.start buffer) [2, 3],
      .single (.gives (by decide) rfl (by decide)), by decide, rfl⟩
  obtain ⟨bytes, hread, hcount, hbuffer⟩ :=
    (fill_eq_slice content pieces hpieces 1 buffer hend).2 hwhole
  obtain rfl : [2, 3, 4, 5] = bytes := by simpa [content, buffer, ofArray, slice] using hread
  exact ⟨⟨hpieces, hbroken, hend, hwhole, hfails⟩, hcount, hbuffer,
    (fill_eq_slice content broken hbroken 1 buffer hend).1 _ hfails⟩

end File

end BinaryLayout.Source
