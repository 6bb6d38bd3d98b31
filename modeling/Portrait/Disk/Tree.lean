import Portrait.Disk.Basic

/-! A disk that is a value: a tree of files and directories, seen from its root. -/

namespace Portrait

structure Tree where
  files : List (List String × ByteArray) := []
  dirs : List (List String) := []

namespace Tree

/-- Where a path has led: to the names from the root, or out of the tree, above its root or at `/`. -/
inductive Place
  | inside (names : List String)
  | outside
  deriving DecidableEq

def nameLimit : Nat := 255

def pathLimit : Nat := 4095

def Place.parent : Place → Place
  | .inside (name :: names) => .inside (name :: names).dropLast
  | _ => .outside

def Place.next (at' : Place) (name : String) : Except ReadFailure Place :=
  if name = "" ∨ name = "." then .ok at'
  else if name = ".." then .ok at'.parent
  else if nameLimit < name.utf8ByteSize then .error .nameTooLong
  else match at' with
    | .inside names => .ok (.inside (names ++ [name]))
    | .outside => .error .notFound

def paths (t : Tree) : List (List String) := t.files.map (·.1) ++ t.dirs

def file? (t : Tree) (path : List String) : Option ByteArray := t.files.lookup path

def isDirectory (t : Tree) (path : List String) : Bool :=
  path.isEmpty || t.dirs.contains path || t.paths.any fun p => path.isPrefixOf p && p ≠ path

def entry? (t : Tree) : Place → Option EntryKind
  | .outside => some .directory
  | .inside names =>
    if (t.file? names).isSome then some .file
    else if t.isDirectory names then some .directory
    else none

def enter (t : Tree) (at' : Place) (name : String) : Except ReadFailure Place :=
  match t.entry? at' with
  | some .directory => at'.next name
  | some _ => .error .notDirectory
  | none => .error .notFound

def locate (t : Tree) (path : String) : Except ReadFailure (Place × EntryKind) :=
  if path.toList.contains '\x00' then .error .zeroInPath
  else if path.isEmpty then .error .notFound
  else if pathLimit < path.utf8ByteSize then .error .nameTooLong
  else do
    let start := if path.startsWith "/" then .outside else .inside []
    let at' ← ((path.toList.splitOn '/').map String.ofList).foldlM t.enter start
    match t.entry? at' with
    | some kind => .ok (at', kind)
    | none => .error .notFound

def read (t : Tree) (path : String) : Except ReadFailure ByteArray := do
  match ← t.locate path with
  | (.inside names, .file) => return (t.file? names).getD .empty
  | _ => .error .isDirectory

def kind? (t : Tree) (path : String) : Option EntryKind :=
  (t.locate path).toOption.map (·.2)

def filesBelow (t : Tree) (path : String) : List (List String) := match t.locate path with
  | .ok (.inside names, .directory) =>
    (t.files.map (·.1)).filterMap fun p =>
      if names.isPrefixOf p then some (p.drop names.length) else none
  | _ => []

def disk (t : Tree) : Disk Id := ⟨t.read, t.kind?, t.filesBelow⟩

end Tree

end Portrait
