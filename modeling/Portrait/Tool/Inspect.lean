import Portrait.Document.Load
import Portrait.Json.Printer
import Portrait.Sprite.Ledger
import Portrait.Tool.Outcome

/-! Looking at one model: its diagnostics, its poses, and what it shows after some actions. -/

namespace Portrait.Inspect

inductive View
  | visibleIds
  | json
  | drawOrder
  deriving DecidableEq

inductive Request
  | check (path : String)
  | poses (path : String)
  | resolve (path : String) (actions : List Action) (view : View)
  deriving DecidableEq

def Request.path : Request → String
  | .check path | .poses path | .resolve path _ _ => path

def failure (message : String) : Outcome := { exit := 1, stderr := "mano error: " ++ message ++ "\n" }

def check (path : String) (m : Model) : Outcome :=
  let ds := m.analyse
  let report := unlines (ds.entries.map toString ++ ["", verdict ds.errorCount ds.warnCount])
  if ds.hasErrors then
    let last := failure ("模型检查发现错误: " ++ path)
    { last with stderr := report ++ last.stderr }
  else { stderr := report }

def poses (m : Model) : Outcome :=
  { stdout := unlines <| m.poseNames.flatMap fun name => [
      name,
      "  groups:   " ++ ", ".intercalate (m.poses.affectedGroups name),
      "  commands: " ++ " ".intercalate (m.poses.resolve name)] }

def play (m : Model) (actions : List Action) : Player Ledger Nat :=
  (Player.start m ({} : Ledger)).performAll actions

def render (p : Player Ledger Nat) : View → List String
  | .visibleIds => p.visibility.visibleIds
  | .drawOrder => p.stage.drawn
  | .json =>
    [String.ofList (Json.printLines (p.visibility.entries.map fun e => (e.1, Json.printBool e.2)))]

def resolve (m : Model) (actions : List Action) (view : View) : Outcome :=
  let p := play m actions
  { stdout := unlines (render p view)
    stderr := unlines ["active poses: " ++ ", ".intercalate p.state.active] }

def answer (model : Except LoadError Model) (request : Request) : Outcome := match model with
  | .error e => failure e.message
  | .ok m => match request with
    | .check path => check path m
    | .poses _ => poses m
    | .resolve _ actions view => resolve m actions view

def actionText : Action → String
  | .setPose pose => "SetPose(" ++ Text.quoted pose ++ ")"
  | .addPose pose => "AddPose(" ++ Text.quoted pose ++ ")"
  | .removePose pose => "RemovePose(" ++ Text.quoted pose ++ ")"
  | .setLayer id true => "Show(" ++ Text.quoted id ++ ")"
  | .setLayer id false => "Hide(" ++ Text.quoted id ++ ")"
  | .clearGroup group => "ClearGroup(" ++ Text.quoted group ++ ")"
  | .reset => "Reset"

def playEvents (p : Player Ledger Nat) : List Action → List Event
  | [] => []
  | a :: as => .requested (actionText a) :: p.events a ++ playEvents (p.perform a) as

/-- All views but the drawing order are made from one more look at the layers. -/
def events : Except LoadError Model → Request → List Event
  | .ok m, .resolve _ actions view =>
    let p := Player.start m ({} : Ledger)
    Document.loadEvents m ++ p.updateEvents ++ playEvents p actions ++
      if view = .drawOrder then [] else (play m actions).state.skipEvents m
  | _, _ => []

end Portrait.Inspect
