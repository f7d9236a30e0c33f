import VideoDelivery.File.Fault

/-!
# Trees of files

A tree holds files in folders, and one folder is where relative paths start. A path is followed
name by name: an empty name and `.` stay in the folder, `..` goes to the folder around it, and every
other name has to be in the folder. All of them, the empty name behind a last slash included, need a
folder to start from.
-/

namespace VideoDelivery

/-- Files in folders. -/
structure FileTree where
  /-- Every file: the names on the way to it from the root, its own the last, and its content. -/
  files : List (List String × String)
  /-- The folder where relative paths start, by the names on the way to it. -/
  start : List String := []

namespace FileTree

/-- The bytes that a path can have. -/
def maxPath : Nat := 4095

/-- The bytes that one name can have. -/
def maxName : Nat := 255

/-- The names of a path, between its slashes. -/
def names : List Char → List (List Char)
  | [] => [[]]
  | c :: path =>
    if c = '/' then [] :: names path
    else
      match names path with
      | [] => [[c]]
      | name :: rest => (c :: name) :: rest

/-- A folder is the starting folder, a folder around it, or one with a file somewhere within. -/
def isFolder (t : FileTree) (place : List String) : Bool :=
  place.isPrefixOf t.start || t.files.any fun f => place.isPrefixOf f.1 && place != f.1

/-- The place that a name leads to. -/
def follow (t : FileTree) (place : List String) (name : String) : Except FileFault (List String) :=
  if ¬ t.isFolder place then .error .notFolder
  else if name = "" ∨ name = "." then .ok place
  else if name = ".." then .ok place.dropLast
  else if maxName < name.utf8ByteSize then .error .nameTooLong
  else if t.isFolder (place ++ [name]) ∨ (t.files.lookup (place ++ [name])).isSome then
    .ok (place ++ [name])
  else .error .missing

/-- The place where a path starts. -/
def startOf (t : FileTree) (path : String) : List String :=
  if path.toList.head? = some '/' then [] else t.start

/-- The content of the file that a path leads to. -/
def read (t : FileTree) (path : String) : Except FileFault String :=
  if path = "" then .error .missing
  else if maxPath < path.utf8ByteSize then .error .nameTooLong
  else do
    let place ← ((names path.toList).map String.ofList).foldlM t.follow (t.startOf path)
    match t.files.lookup place with
    | some content => .ok content
    | none => .error .isFolder

end FileTree

end VideoDelivery
