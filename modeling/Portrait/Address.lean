/-! Addresses of layer images: a base directory or network address joined with a path. -/

namespace Portrait.Address

def scheme? : List Char → Option (List Char)
  | ':' :: '/' :: '/' :: _ => some []
  | [] => none
  | c :: cs => (scheme? cs).map (c :: ·)

def isSchemeChar (c : Char) : Bool := c.isAlphanum || c = '+' || c = '-' || c = '.'

def isAbsolute (path : List Char) : Bool :=
  "data:".toList.isPrefixOf path || "blob:".toList.isPrefixOf path ||
    match scheme? path with
    | some s => !s.isEmpty && s.all isSchemeChar
    | none => false

def networkMark? (base : List Char) : Option (List Char) :=
  ["http://".toList, "https://".toList, "//".toList].find? (·.isPrefixOf base)

def splitOrigin? (base : List Char) : Option (List Char × List Char) :=
  (networkMark? base).map fun mark =>
    let rest := base.drop mark.length
    (mark ++ rest.takeWhile (· ≠ '/'), rest.dropWhile (· ≠ '/'))

def components (path : List Char) : List (List Char) := path.splitOn '/'

def descend (stack : List (List Char)) (c : List Char) : List (List Char) :=
  if c = [] ∨ c = ['.'] then stack
  else if c = ['.', '.'] then stack.tail
  else c :: stack

def normalise (path : List Char) : List Char :=
  '/' :: ['/'].intercalate ((components path).foldl descend []).reverse

def trimRight (path : List Char) : List Char := (path.reverse.dropWhile (· = '/')).reverse

def trimLeft (path : List Char) : List Char := path.dropWhile (· = '/')

def join (base path : List Char) : List Char :=
  if isAbsolute path || base.isEmpty then path
  else match splitOrigin? base with
    | some (origin, dir) =>
      origin ++ normalise (if ['/'].isPrefixOf path then path else trimRight dir ++ '/' :: path)
    | none => trimRight base ++ '/' :: trimLeft path

end Portrait.Address

namespace Portrait

def isAbsoluteAddress (path : String) : Bool := Address.isAbsolute path.toList

def resolveAddress (base path : String) : String :=
  String.ofList (Address.join base.toList path.toList)

end Portrait
