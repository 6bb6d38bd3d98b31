/-! What is asked of a disk, by a program that runs in any monad. -/

namespace Portrait

inductive ReadFailure
  | notFound
  | notDirectory
  | isDirectory
  | nameTooLong
  | zeroInPath
  | notText
  | other (message : String)
  deriving DecidableEq

instance : ToString ReadFailure where
  toString
    | .notFound => "No such file or directory (os error 2)"
    | .notDirectory => "Not a directory (os error 20)"
    | .isDirectory => "Is a directory (os error 21)"
    | .nameTooLong => "File name too long (os error 36)"
    | .zeroInPath => "file name contained an unexpected NUL byte"
    | .notText => "stream did not contain valid UTF-8"
    | .other message => message

/-- Devices, pipes and sockets are neither files nor directories. -/
inductive EntryKind
  | file
  | directory
  | other
  deriving DecidableEq

structure Disk (m : Type → Type) where
  read : String → m (Except ReadFailure ByteArray)
  kind? : String → m (Option EntryKind)
  /-- The regular files below a directory, each as the names that lead to it from there.  Links below
  it are not followed. -/
  filesBelow : String → m (List (List String))

namespace Disk

def joinPath (base path : String) : String :=
  if path.startsWith "/" then path
  else if base.isEmpty || base.endsWith "/" then base ++ path
  else base ++ "/" ++ path

def parentPath (path : String) : String :=
  String.ofList (path.toList.reverse.dropWhile (· ≠ '/')).reverse

end Disk

end Portrait
