/-!
# Files of the host

The service itself touches no file.  The tool around it reads and writes files
through a `Host`, which is a pair of operations in some monad, so that a run
of the tool can be carried out on real files as well as on a tree of files
held in memory.
-/

namespace OnboardStorage

/-- Why a file is not read or written. -/
inductive FileFault where
  | missing
  | isDirectory
  | notDirectory
  | nameTooLong
  /-- The file is there, but its bytes are no UTF-8 text. -/
  | notText
  /-- Any other cause, in the words of the host. -/
  | other (wording : String)
  deriving DecidableEq, Repr

/-- Wording of the fault. -/
def FileFault.message : FileFault → String
  | .missing => "No such file or directory (os error 2)"
  | .isDirectory => "Is a directory (os error 21)"
  | .notDirectory => "Not a directory (os error 20)"
  | .nameTooLong => "File name too long (os error 36)"
  | .notText => "stream did not contain valid UTF-8"
  | .other wording => wording

/-- Access to files by path. -/
structure Host (m : Type → Type) where
  read : String → m (Except FileFault ByteArray)
  write : String → String → m (Except FileFault Unit)

/-- The text of a file that was read. -/
def fileText (content : Except FileFault ByteArray) : Except FileFault String :=
  match content with
  | .error fault => .error fault
  | .ok bytes =>
      match String.fromUTF8? bytes with
      | some text => .ok text
      | none => .error .notText

end OnboardStorage
