/-!
# Files that cannot be read

Why a path leads to no text. Most faults show when the file is opened; that a path leads to a folder
shows only when what was opened is read.
-/

namespace VideoDelivery

/-- Why a path leads to no text. -/
inductive FileFault where
  /-- There is nothing of that name. -/
  | missing
  /-- A name on the way belongs to a file. -/
  | notFolder
  /-- The path leads to a folder. -/
  | isFolder
  /-- The path, or a name in it, is longer than the system allows. -/
  | nameTooLong
  /-- The file must not be opened. -/
  | forbidden
  /-- Any other reason, in the words of the system. -/
  | other (reason : String)

namespace FileFault

/-- The words of the system for a fault. -/
def text : FileFault → String
  | .missing => "No such file or directory (os error 2)"
  | .notFolder => "Not a directory (os error 20)"
  | .isFolder => "Is a directory (os error 21)"
  | .nameTooLong => "File name too long (os error 36)"
  | .forbidden => "Permission denied (os error 13)"
  | .other reason => reason

/-- The fault shows in reading what could be opened. -/
def isInReading : FileFault → Bool
  | .isFolder => true
  | _ => false

end FileFault

end VideoDelivery
