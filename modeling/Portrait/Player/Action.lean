import Portrait.Player.State

/-! What a player can be asked to do, its notation, and its effect on the player's state. -/

namespace Portrait

inductive Action
  | setPose (pose : String)
  | addPose (pose : String)
  | removePose (pose : String)
  | setLayer (id : String) (visible : Bool)
  | clearGroup (group : String)
  | reset
  deriving DecidableEq

inductive ActionError
  | noColon (text : String)
  | noArgument (kind : String)
  | unknownKind (kind : String)
  deriving DecidableEq

def ActionError.message : ActionError → String
  | .noColon text => "无效的操作 '" ++ text ++ "'，应为 <kind>:<arg> 或 reset"
  | .noArgument kind => "操作 '" ++ kind ++ "' 缺少参数"
  | .unknownKind kind => "未知操作 '" ++ kind ++ "'，可用：set/add/remove/show/hide/clear/reset"

namespace Action

def splitAtColon : List Char → Option (List Char × List Char)
  | [] => none
  | c :: cs => if c = ':' then some ([], cs)
    else (splitAtColon cs).map fun (kind, arg) => (c :: kind, arg)

def ofKind? (kind arg : String) : Option Action := match kind with
  | "set" => some (.setPose arg)
  | "add" => some (.addPose arg)
  | "remove" => some (.removePose arg)
  | "show" => some (.setLayer arg true)
  | "hide" => some (.setLayer arg false)
  | "clear" => some (.clearGroup arg)
  | _ => none

def parse (text : String) : Except ActionError Action :=
  if text = "reset" then .ok .reset
  else match splitAtColon text.toList with
    | none => .error (.noColon text)
    | some (kind, arg) =>
      let kind := String.ofList kind
      if arg.isEmpty then .error (.noArgument kind)
      else match ofKind? kind (String.ofList arg) with
        | some action => .ok action
        | none => .error (.unknownKind kind)

instance : ToString Action where
  toString
    | .setPose pose => "set:" ++ pose
    | .addPose pose => "add:" ++ pose
    | .removePose pose => "remove:" ++ pose
    | .setLayer id true => "show:" ++ id
    | .setLayer id false => "hide:" ++ id
    | .clearGroup group => "clear:" ++ group
    | .reset => "reset"

def updates (m : Model) : Action → Bool
  | .setPose pose | .addPose pose => m.hasPose pose
  | _ => true

end Action

def PoseTable.conflict (t : PoseTable) (a b : String) : Bool :=
  let groups := t.affectedGroups b
  (t.affectedGroups a).any groups.contains

namespace PlayerState

def evictConflicts (t : PoseTable) (s : PlayerState) (pose : String) : List String × PlayerState :=
  s.evict fun active => t.conflict active pose

def activateAll (s : PlayerState) (poses : List String) : PlayerState :=
  poses.foldl (fun s pose => (s.activate pose).2) s

def perform (m : Model) (s : PlayerState) : Action → PlayerState
  | .setPose pose =>
    if m.hasPose pose then ((s.evictConflicts m.poses pose).2.activate pose).2 else s
  | .addPose pose => if m.hasPose pose then (s.activate pose).2 else s
  | .removePose pose => (s.deactivate pose).2
  | .setLayer id visible => s.setOverride id visible
  | .clearGroup group => (s.clearOverrides group).2
  | .reset => ({} : PlayerState).activateAll m.defaultPoses

end PlayerState

end Portrait
