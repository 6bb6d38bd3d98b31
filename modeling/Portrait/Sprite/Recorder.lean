import Portrait.Sprite.Basic

/-! A stage that writes down what is asked of it and passes it on to another. -/

namespace Portrait

inductive Call
  | create (handle : Nat) (sprite : Sprite)
  | setVisible (handle : Nat) (visible : Bool)
  | sortChildren
  | release (handle : Nat)
  deriving DecidableEq

/-- Calls in the order they were made.  The recorder numbers the sprites from zero in creation
order, beside the handles of the stage behind it.  A sprite keeps its number when its handle
changes. -/
structure Recorder (σ : Type) where
  stage : σ
  created : Nat := 0
  calls : List Call := []

namespace Recorder

variable {σ Handle : Type} [Stage σ Handle]

def log (r : Recorder σ) (stage : σ) (call : Call) : Recorder σ :=
  { r with stage, calls := r.calls ++ [call] }

instance : Stage (Recorder σ) (Nat × Handle) where
  create r sprite :=
    let (handle, stage) := Stage.create r.stage sprite
    ((r.created, handle), { r.log stage (.create r.created sprite) with created := r.created + 1 })
  setVisible r h visible :=
    let (handle, stage) := Stage.setVisible r.stage h.2 visible
    ((h.1, handle), r.log stage (.setVisible h.1 visible))
  release r h := r.log (Stage.release r.stage h.2) (.release h.1)
  sortChildren r := r.log (Stage.sortChildren r.stage) .sortChildren

end Recorder

structure SparseRecorder where
  created : Nat := 0
  calls : List Call := []

instance : Stage SparseRecorder Nat where
  create r sprite := (r.created, ⟨r.created + 1, r.calls ++ [.create r.created sprite]⟩)
  setVisible r h visible := (h, { r with calls := r.calls ++ [.setVisible h visible] })

structure Blank where
  deriving DecidableEq

instance : Stage Blank Unit where
  create s _ := ((), s)
  setVisible s _ _ := ((), s)

end Portrait
