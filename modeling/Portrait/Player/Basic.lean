import Portrait.Player.Action
import Portrait.Sprite.Basic

/-! A player shows a model on a stage: one sprite a layer, made visible as its state says. -/

namespace Portrait

structure Player (σ Handle : Type) where
  model : Model
  stage : σ
  handles : List (String × Handle)
  state : PlayerState := {}

namespace Player

variable {σ Handle : Type} [Stage σ Handle]

def assign (id : String) (h : Handle) :
    List (String × Handle) → List (String × Handle) × Option Handle
  | [] => ([(id, h)], none)
  | e :: es =>
    if e.1 = id then ((id, h) :: es, some e.2)
    else let (es, old) := assign id h es; (e :: es, old)

def mount (m : Model) (p : σ × List (String × Handle)) (l : Layer) : σ × List (String × Handle) :=
  let (h, stage) := Stage.create p.1 (m.sprite l)
  let (handles, old) := assign l.id h p.2
  (old.elim stage (Stage.release stage), handles)

/-- Shows and hides the sprites one after the other, and keeps the handles that come back. -/
def showAll (v : Visibility) (stage : σ) : List (String × Handle) → σ × List (String × Handle)
  | [] => (stage, [])
  | e :: es =>
    let (h, stage) := Stage.setVisible stage e.2 (v.isVisible e.1)
    let (stage, es) := showAll v stage es
    (stage, (e.1, h) :: es)

def visibility (p : Player σ Handle) : Visibility := p.state.visibility p.model

def isLayerVisible (p : Player σ Handle) (id : String) : Bool := p.visibility.isVisible id

def sync (p : Player σ Handle) : Player σ Handle :=
  let (stage, handles) := showAll p.visibility p.stage p.handles
  { p with stage := Stage.sortChildren stage, handles }

def visibleCount (p : Player σ Handle) : Nat :=
  let v := p.visibility
  p.handles.countP (v.isVisible ·.1)

def perform (p : Player σ Handle) (a : Action) : Player σ Handle :=
  let next := { p with state := p.state.perform p.model a }
  if a.updates p.model then next.sync else next

def performAll (p : Player σ Handle) (actions : List Action) : Player σ Handle :=
  actions.foldl perform p

/-- A player in its default state.  Sprites are created in layer order and visited from then on in the
order that `arrange` gives to their ids. -/
def start (m : Model) (stage : σ)
    (arrange : List (String × Handle) → List (String × Handle) := id) : Player σ Handle :=
  let (stage, handles) := m.layers.foldl (mount m) (stage, [])
  ({ model := m, stage, handles := arrange handles } : Player σ Handle).perform .reset

def teardown (p : Player σ Handle) : Player σ Handle :=
  { p with
    stage := p.handles.foldl (fun s e => Stage.release s e.2) p.stage
    handles := []
    state := {} }

end Player

end Portrait
