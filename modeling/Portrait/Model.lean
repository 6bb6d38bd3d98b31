import Portrait.Address
import Portrait.Pose.Table

/-! The portrait of a character: layered images, and the poses that show and hide them. -/

namespace Portrait

structure Layer where
  id : String
  group : String
  name : String
  order : Int32 := 0
  path : String := ""
  deriving DecidableEq

namespace Layer

def conventional (group name : String) : Layer := { id := group ++ "/" ++ name, group, name }

def conventionalId (l : Layer) : String := l.group ++ "/" ++ l.name

def hasConventionalId (l : Layer) : Bool := l.id = l.conventionalId

end Layer

structure Metadata where
  name : String := ""
  exportedAt : Option String := none
  author : Option String := none
  description : Option String := none
  deriving DecidableEq

structure Settings where
  basePath : String := ""
  deriving DecidableEq

structure Assets where
  layers : List Layer := []
  deriving DecidableEq

structure Controller where
  baseLayers : List String := []
  defaultPoses : List String := []
  poses : PoseTable := ∅
  deriving DecidableEq

structure Model where
  version : String := ""
  metadata : Metadata := {}
  settings : Settings := {}
  assets : Assets := {}
  controller : Controller := {}
  deriving DecidableEq

namespace Model

def layers (m : Model) : List Layer := m.assets.layers

def baseLayers (m : Model) : List String := m.controller.baseLayers

def defaultPoses (m : Model) : List String := m.controller.defaultPoses

def poses (m : Model) : PoseTable := m.controller.poses

def layer? (m : Model) (id : String) : Option Layer := m.layers.find? (·.id = id)

def layersInGroup (m : Model) (group : String) : List Layer := m.layers.filter (·.group = group)

def hasPose (m : Model) (name : String) : Bool := m.poses.contains name

def assetAddress (m : Model) (l : Layer) : String := resolveAddress m.settings.basePath l.path

def groupNames (m : Model) : List String := sortedNames (m.layers.map (·.group))

def poseNames (m : Model) : List String := m.poses.keys

end Model

end Portrait
