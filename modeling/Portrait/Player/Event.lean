import Portrait.LogLevel
import Portrait.Player.Basic
import Portrait.Text.Quoted

/-! The events that are logged while a model is loaded and played. -/

namespace Portrait

inductive Event
  | commandSkipped (command : String)
  | unknownPoseSet (pose : String)
  | unknownPoseAdded (pose : String)
  | inactivePoseRemoved (pose : String)
  | conflictsEvicted (pose : String) (evicted : List String)
  | overridesCleared (group : String) (removed : Nat)
  | updated (activePoses overrides visible : Nat)
  | requested (action : String)
  | diagnosed (diagnostic : String)
  | loaded (name : String) (layers poses : Nat)
  deriving DecidableEq

inductive Event.Field
  | text (s : String)
  | count (n : Nat)
  deriving DecidableEq

namespace Event

def level : Event → LogLevel
  | .commandSkipped _ => .trace
  | .diagnosed _ => .warn
  | .loaded .. => .info
  | _ => .debug

def message : Event → String
  | .commandSkipped _ => "跳过无效指令"
  | .unknownPoseSet _ => "set_pose: 忽略未定义的姿势"
  | .unknownPoseAdded _ => "add_pose: 忽略未定义的姿势"
  | .inactivePoseRemoved _ => "remove_pose: 姿势未激活"
  | .conflictsEvicted .. => "set_pose: 移除冲突姿势"
  | .overridesCleared .. => "清除手动覆盖"
  | .updated .. => "图层可见性已更新"
  | .requested _ => "执行操作"
  | .diagnosed _ => "角色模型检查"
  | .loaded .. => "角色模型加载完成"

def fields : Event → List (String × Field)
  | .commandSkipped command => [("command", .text command)]
  | .unknownPoseSet pose | .unknownPoseAdded pose | .inactivePoseRemoved pose =>
    [("pose", .text pose)]
  | .conflictsEvicted pose evicted =>
    [("pose", .text pose), ("evicted", .text (Text.quotedList evicted))]
  | .overridesCleared group removed => [("group", .text group), ("removed", .count removed)]
  | .updated activePoses overrides visible =>
    [("active_poses", .count activePoses), ("overrides", .count overrides),
      ("visible", .count visible)]
  | .requested action => [("op", .text action)]
  | .diagnosed diagnostic => [("diagnostic", .text diagnostic)]
  | .loaded name layers poses =>
    [("name", .text name), ("layers", .count layers), ("poses", .count poses)]

end Event

def PlayerState.skipEvents (m : Model) (s : PlayerState) : List Event :=
  (skippedCommands (m.baseLayers ++ s.active.flatMap m.poses.resolve)).map .commandSkipped

def Action.events (m : Model) (s : PlayerState) : Action → List Event
  | .setPose pose =>
    if m.hasPose pose then
      let evicted := (s.evictConflicts m.poses pose).1
      if evicted.isEmpty then [] else [.conflictsEvicted pose evicted]
    else [.unknownPoseSet pose]
  | .addPose pose => if m.hasPose pose then [] else [.unknownPoseAdded pose]
  | .removePose pose => if s.isActive pose then [] else [.inactivePoseRemoved pose]
  | .clearGroup group => [.overridesCleared group (s.clearOverrides group).1]
  | .setLayer .. | .reset => []

namespace Player

variable {σ Handle : Type} [Stage σ Handle]

def updateEvents (p : Player σ Handle) : List Event :=
  p.state.skipEvents p.model ++
    [.updated p.state.active.length p.state.overrides.size p.visibleCount]

def events (p : Player σ Handle) (a : Action) : List Event :=
  a.events p.model p.state ++ if a.updates p.model then (p.perform a).updateEvents else []

end Player

end Portrait
