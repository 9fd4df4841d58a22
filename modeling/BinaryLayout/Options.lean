import BinaryLayout.Spec

/-!
# Options of a Run

What a run of the generator can be told besides the structures: names, the formatter, and two limits
of the generated code. An array count never exceeds a signed 64-bit integer, and a scan for a
terminator covers at least one byte.
-/

namespace BinaryLayout

/-- The greatest signed 64-bit integer. -/
def greatestCount : Nat := 0x7FFFFFFFFFFFFFFF

structure Options where
  /-- The name written into the header of the artifact. -/
  module : String := "profile"
  profile : String := "Profile"
  debug : Bool := false
  /-- The most elements that an array decodes. -/
  arrayLimit : Nat := 4000000
  /-- The bytes that are scanned for the terminator of a string. -/
  window : Nat := 1024
  /-- The path from which the generated code imports what it needs. -/
  runtime : String := "binparsegen_reader"
  arrayLimit_le : arrayLimit ≤ greatestCount := by decide
  window_pos : 0 < window := by decide

namespace Options

def ofSpec (spec : Spec) : Options :=
  { module := spec.module, profile := spec.profile, debug := spec.debug }

def withModule (options : Options) (name : String) : Options :=
  { options with module := name }

def withProfile (options : Options) (name : String) : Options :=
  { options with profile := name }

def withDebug (options : Options) (value : Bool) : Options :=
  { options with debug := value }

/-- Sets the limit of array counts, as far as a signed integer goes. -/
def withArrayLimit (options : Options) (limit : Nat) : Options :=
  { options with
    arrayLimit := min limit greatestCount
    arrayLimit_le := Nat.min_le_right limit greatestCount }

theorem pos_max_one (bytes : Nat) : 0 < max bytes 1 :=
  Nat.le_max_right bytes 1

/-- Sets the scan window, at least one byte. -/
def withWindow (options : Options) (bytes : Nat) : Options :=
  { options with
    window := max bytes 1
    window_pos := pos_max_one bytes }

def withRuntime (options : Options) (path : String) : Options :=
  { options with runtime := path }

end Options

end BinaryLayout
