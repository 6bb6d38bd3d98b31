import Portrait.Command
import Portrait.Model

/-! Which layers are visible: commands merged into a map from layer ids, later ones winning. -/

namespace Portrait

abbrev Visibility := SortedMap Bool

namespace Visibility

def isVisible (v : Visibility) (id : String) : Bool := (v.get? id).getD false

def visibleIds (v : Visibility) : List String := (v.entries.filter (·.2)).map (·.1)

end Visibility

namespace Command

def effects (layers : List Layer) (c : Command) : List (String × Bool) :=
  let members := layers.filter (·.group = c.group)
  match c.op with
  | .reveal => [(c.layerId, true)]
  | .hide => if c.name.isEmpty then members.map fun l => (l.id, false) else [(c.layerId, false)]
  | .select => members.map fun l => (l.id, l.name = c.name)

end Command

namespace Visibility

def apply (layers : List Layer) (v : Visibility) (c : Command) : Visibility :=
  if c.isNoop then v else v.insertAll (c.effects layers)

def applyAll (layers : List Layer) (v : Visibility) (commands : List String) : Visibility :=
  commands.foldl (fun v raw => v.apply layers (Command.parse raw)) v

end Visibility

def skippedCommands (commands : List String) : List String :=
  commands.filter fun raw => (Command.parse raw).isNoop

end Portrait
