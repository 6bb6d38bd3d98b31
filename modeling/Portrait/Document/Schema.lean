import Portrait.Json.Record
import Portrait.Model

/-! The records of a model document.  Only the id, the group and the name of a layer are required. -/

namespace Portrait.Document

open Json

def layer : Schema Layer where
  name := "Layer"
  blank := { id := "", group := "", name := "" }
  fields := [
    .of "id" string (fun x l => { l with id := x }) true,
    .of "group" string (fun x l => { l with group := x }) true,
    .of "name" string (fun x l => { l with name := x }) true,
    .of "order" int32 fun x l => { l with order := x },
    .of "path" string fun x l => { l with path := x }]

def metadata : Schema Metadata where
  name := "ModelMetadata"
  blank := {}
  fields := [
    .of "name" string fun x m => { m with name := x },
    .of "exportedAt" optionalString fun x m => { m with exportedAt := x },
    .of "author" optionalString fun x m => { m with author := x },
    .of "description" optionalString fun x m => { m with description := x }]

def settings : Schema Settings where
  name := "ModelSettings"
  blank := {}
  fields := [.of "basePath" string fun x s => { s with basePath := x }]

def assets : Schema Assets where
  name := "ModelAssets"
  blank := {}
  fields := [.of "layers" (list layer.reader) fun x a => { a with layers := x }]

def controller : Schema Controller where
  name := "Controller"
  blank := {}
  fields := [
    .of "baseLayers" (list string) fun x c => { c with baseLayers := x },
    .of "defaultPoses" (list string) fun x c => { c with defaultPoses := x },
    .of "poses" (map (list string)) fun x c => { c with poses := x }]

def model : Schema Model where
  name := "CharacterModel"
  blank := {}
  fields := [
    .of "version" string fun x m => { m with version := x },
    .of "metadata" metadata.reader fun x m => { m with metadata := x },
    .of "settings" settings.reader fun x m => { m with settings := x },
    .of "assets" assets.reader fun x m => { m with assets := x },
    .of "controller" controller.reader fun x m => { m with controller := x }]

end Portrait.Document
