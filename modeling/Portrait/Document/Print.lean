import Portrait.Json.Printer
import Portrait.Model

/-! The compact text of a model.  Absent metadata is left out, everything else is written. -/

namespace Portrait.Document

open Json

def printStrings (xs : List String) : List Char := printArray (xs.map printString)

def printOptional (key : String) (x : Option String) : List (String × List Char) :=
  x.toList.map fun s => (key, printString s)

def printLayer (l : Layer) : List Char := printObject [
  ("id", printString l.id), ("group", printString l.group), ("name", printString l.name),
  ("order", printInt l.order.toInt), ("path", printString l.path)]

def printMetadata (m : Metadata) : List Char := printObject <|
  [("name", printString m.name)] ++ printOptional "exportedAt" m.exportedAt ++
    printOptional "author" m.author ++ printOptional "description" m.description

def printSettings (s : Settings) : List Char := printObject [("basePath", printString s.basePath)]

def printAssets (a : Assets) : List Char :=
  printObject [("layers", printArray (a.layers.map printLayer))]

def printPoses (poses : List (String × List String)) : List Char :=
  printObject (poses.map fun e => (e.1, printStrings e.2))

def printController (c : Controller) (poses : List (String × List String)) : List Char :=
  printObject [
    ("baseLayers", printStrings c.baseLayers), ("defaultPoses", printStrings c.defaultPoses),
    ("poses", printPoses poses)]

def printWith (m : Model) (poses : List (String × List String)) : List Char := printObject [
  ("version", printString m.version), ("metadata", printMetadata m.metadata),
  ("settings", printSettings m.settings), ("assets", printAssets m.assets),
  ("controller", printController m.controller poses)]

def print (m : Model) : String := String.ofList (printWith m m.poses.entries)

end Portrait.Document
