import Portrait.Diagnostic.Basic
import Portrait.Pose.Cycle
import Portrait.Model

/-! What can be wrong with a model although it can be played. -/

namespace Portrait

inductive Site
  | baseLayers
  | pose (name : String)
  deriving DecidableEq

def Site.subject : Site → String
  | .baseLayers => "controller.baseLayers"
  | .pose name => "poses." ++ name

inductive Finding
  | duplicateId (index : Nat) (id : String) (first : Nat)
  | unconventionalId (index : Nat) (layer : Layer)
  | undefinedDefault (index : Nat) (pose : String)
  | unreadable (site : Site) (raw : String)
  | unknownGroup (site : Site) (raw : String)
  | unknownLayer (site : Site) (raw : String)
  | cyclicPose (pose : String)
  deriving DecidableEq

namespace Finding

def level : Finding → Severity
  | .duplicateId .. | .undefinedDefault .. => .error
  | .unconventionalId .. | .unreadable .. | .unknownGroup .. | .unknownLayer .. => .warn
  | .cyclicPose _ => .info

def subject : Finding → String
  | .duplicateId i _ _ | .unconventionalId i _ => "layers[" ++ toString i ++ "]"
  | .undefinedDefault i _ => "controller.defaultPoses[" ++ toString i ++ "]"
  | .unreadable site _ | .unknownGroup site _ | .unknownLayer site _ => site.subject
  | .cyclicPose pose => (Site.pose pose).subject

def message : Finding → String
  | .duplicateId _ id _ => "图层 ID '" ++ id ++ "' 重复"
  | .unconventionalId _ l =>
    "图层 ID '" ++ l.id ++ "' 与 group/name 不一致，应为 '" ++ l.conventionalId ++ "'"
  | .undefinedDefault _ pose => "默认姿势 '" ++ pose ++ "' 未定义"
  | .unreadable .. => "无法解析的条目，将被忽略"
  | .unknownGroup _ raw => "指令引用了不存在的组 '" ++ (Command.parse raw).group ++ "'"
  | .unknownLayer _ raw => "指令引用了不存在的图层 '" ++ (Command.parse raw).layerId ++ "'"
  | .cyclicPose _ => "姿势处于循环引用中"

def detail? : Finding → Option String
  | .duplicateId _ _ first => some ("首次出现于 layers[" ++ toString first ++ "]")
  | .unconventionalId .. => some "`+`/`-` 指令按 group/name 合成 ID，将无法作用于该图层"
  | .undefinedDefault .. => none
  | .unreadable _ raw => some ("'" ++ raw ++ "' 既不是姿势名也不是图层指令")
  | .unknownGroup _ raw | .unknownLayer _ raw => some raw
  | .cyclicPose _ => some "展开时重复出现的姿势会被忽略"

def diagnostic (f : Finding) : Diagnostic := ⟨f.level, f.subject, f.message, f.detail?⟩

end Finding

def Command.targetsLayer (c : Command) : Bool := match c.op with
  | .reveal => true
  | .hide => !c.isGroupClear
  | .select => false

namespace Model

def firstIndex (m : Model) (id : String) : Nat := m.layers.findIdx (·.id = id)

def layerFindings (m : Model) : List Finding :=
  m.layers.zipIdx.flatMap fun (l, i) =>
    let first := m.firstIndex l.id
    (if first < i then [.duplicateId i l.id first] else []) ++
      if l.hasConventionalId then [] else [.unconventionalId i l]

def defaultFindings (m : Model) : List Finding :=
  m.defaultPoses.zipIdx.flatMap fun (pose, i) =>
    if m.hasPose pose then [] else [.undefinedDefault i pose]

def commandFindings (m : Model) (site : Site) (raw : String) : List Finding :=
  let c := Command.parse raw
  if c.isNoop then [.unreadable site raw]
  else if !m.layers.any (·.group = c.group) then [.unknownGroup site raw]
  else if c.targetsLayer && !m.layers.any (·.id = c.layerId) then [.unknownLayer site raw]
  else []

def poseFindings (m : Model) (pose : String) : List Finding :=
  (m.poses.literals pose).flatMap (m.commandFindings (.pose pose))

def findings (m : Model) : List Finding :=
  m.layerFindings ++ m.defaultFindings ++
    m.baseLayers.flatMap (m.commandFindings .baseLayers) ++
    m.poseNames.flatMap m.poseFindings ++
    m.poses.cyclicPoses.map .cyclicPose

def analyse (m : Model) : Diagnostics := ⟨m.findings.map (·.diagnostic)⟩

end Model

end Portrait
