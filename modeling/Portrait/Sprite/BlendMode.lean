import Portrait.Text.LowerCase

namespace Portrait

inductive BlendMode
  | normal
  | overlay
  | softLight
  | multiply
  deriving DecidableEq, Repr, Inhabited

namespace BlendMode

instance : ToString BlendMode where
  toString
    | .normal => "normal"
    | .overlay => "overlay"
    | .softLight => "softlight"
    | .multiply => "multiply"

def named : List BlendMode := [.overlay, .softLight, .multiply]

def ofLayerName (name : String) : BlendMode :=
  let lower := Text.lowerCase name.toList
  (named.find? fun mode => Text.hasInfix (toString mode).toList lower).getD .normal

end BlendMode

end Portrait
