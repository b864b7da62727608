-- A working directory and what paths name in it. The program sees no other
-- directory: what lies elsewhere has no files.
namespace Patchbay

/-- Why a file cannot be read. -/
inductive FileProblem
  | notFound
  | permissionDenied
  | notDirectory
  | isDirectory
  | nameTooLong
  /-- Reading fails half-way. -/
  | broken
  deriving DecidableEq, Repr

def FileProblem.message : FileProblem → String
  | .notFound => "No such file or directory (os error 2)"
  | .permissionDenied => "Permission denied (os error 13)"
  | .notDirectory => "Not a directory (os error 20)"
  | .isDirectory => "Is a directory (os error 21)"
  | .nameTooLong => "File name too long (os error 36)"
  | .broken => "Input/output error (os error 5)"

/-- The files of a directory, by their names. -/
structure Folder where
  files : List (String × List UInt8)

namespace Folder

/-- A name may have so many bytes. -/
def nameLimit : Nat := 255

/-- A whole path may have so many bytes. -/
def pathLimit : Nat := 4095

/-- Follows the names of a path. `isHere` says whether the path is still in the
directory: two dots lead away from it and a dot to nowhere else. Only a
directory has names below it. -/
def follow (folder : Folder) : Bool → List String → Except FileProblem (List UInt8)
  | _, [] => .error .isDirectory
  | isHere, name :: rest =>
    if name = "" || name = "." then follow folder isHere rest
    else if name = ".." then follow folder false rest
    else if nameLimit < name.utf8ByteSize then .error .nameTooLong
    else match if isHere then folder.files.lookup name else none with
      | none => .error .notFound
      | some bytes => if rest = [] then .ok bytes else .error .notDirectory

/-- The bytes of the file that a path names. A path that starts with a slash
starts elsewhere. -/
def read (folder : Folder) (path : String) : Except FileProblem (List UInt8) :=
  if path = "" then .error .notFound
  else if pathLimit < path.utf8ByteSize then .error .nameTooLong
  else folder.follow (path.front ≠ '/') (path.splitOn "/")

end Folder

end Patchbay
