/-!
# Files

Where files are read and written does not matter to the program: a disk gives the two operations in any
monad.
-/

namespace BinaryLayout

/-- Why a file cannot be read or written. -/
inductive FileError
  | notFound
  | notDirectory
  | isDirectory
  | nameTooLong
  | zeroInName
  | notText
  | system (description : String)
deriving DecidableEq, Repr

def FileError.message : FileError → String
  | .notFound => "No such file or directory (os error 2)"
  | .notDirectory => "Not a directory (os error 20)"
  | .isDirectory => "Is a directory (os error 21)"
  | .nameTooLong => "File name too long (os error 36)"
  | .zeroInName => "file name contained an unexpected NUL byte"
  | .notText => "stream did not contain valid UTF-8"
  | .system description => description

/-- The files of a program that runs in a monad. -/
structure Disk (m : Type → Type) where
  read : String → m (Except FileError ByteArray)
  write : String → ByteArray → m (Except FileError Unit)

/-- The text of a file. -/
def Disk.readText {m : Type → Type} [Monad m] (disk : Disk m) (path : String) :
    m (Except FileError String) := do
  match ← disk.read path with
  | .error error => return .error error
  | .ok bytes =>
    match String.fromUTF8? bytes with
    | some text => return .ok text
    | none => return .error .notText

end BinaryLayout
