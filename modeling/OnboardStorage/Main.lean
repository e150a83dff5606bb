import OnboardStorage.CommandLine.Tool

/-!
# The tool as a program

The real files and streams behind the tool.
-/

namespace OnboardStorage.CommandLine

/-- The fault that an error of the system stands for, told by its number where
one kind of error covers several. -/
def faultOf : IO.Error → FileFault
  | .noFileOrDirectory .. => .missing
  | .inappropriateType _ 20 _ => .notDirectory
  | .inappropriateType _ 21 _ => .isDirectory
  | .invalidArgument _ 36 _ => .nameTooLong
  | .permissionDenied _ number details => .other s!"{details} (os error {number})"
  | error => .other (toString error)

/-- Carry out an action on files. -/
def attempt {α : Type} (action : IO α) : IO (Except FileFault α) := do
  match ← action.toBaseIO with
  | .ok value => return .ok value
  | .error error => return .error (faultOf error)

/-- The files of the system. -/
def systemHost : Host IO where
  read := fun path => attempt (IO.FS.readBinFile path)
  write := fun path text => attempt (IO.FS.writeFile path text)

end OnboardStorage.CommandLine

open OnboardStorage.CommandLine in
/-- Carry out the arguments, print what there is to print, and exit. -/
def main (arguments : List String) : IO UInt32 := do
  let outcome ← run systemHost arguments
  for line in outcome.output do
    IO.println line
  for entry in outcome.log do
    IO.eprintln entry.line
  for line in outcome.errors do
    IO.eprintln line
  return outcome.exitCode.toUInt32
