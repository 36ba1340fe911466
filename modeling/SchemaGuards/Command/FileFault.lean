/-!
# Faults of the file system

Why a file could not be read or written, in the words of the operating system.
-/

namespace SchemaGuards

/-- Why an operation on files failed. -/
inductive FileFault where
  /-- A step of the path, or its end, is not there. -/
  | missing
  /-- Something is already at the place. -/
  | occupied
  /-- A path leads on from a file. -/
  | notFolder
  /-- A folder stands where a file is needed. -/
  | isFolder
  /-- The bytes that were read are no text. -/
  | notText
  /-- Any other failure, by its wording. -/
  | other (message : String)
  deriving Repr, DecidableEq

namespace FileFault

/-- The wording of a fault. -/
def message : FileFault → String
  | missing => "No such file or directory (os error 2)"
  | occupied => "File exists (os error 17)"
  | notFolder => "Not a directory (os error 20)"
  | isFolder => "Is a directory (os error 21)"
  | notText => "stream did not contain valid UTF-8"
  | other message => message

end FileFault

end SchemaGuards
