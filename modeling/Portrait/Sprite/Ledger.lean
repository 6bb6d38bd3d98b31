import Portrait.Sprite.Basic

/-! A stage without a screen: it keeps the description and the visibility of every sprite. -/

namespace Portrait

structure SpriteRecord where
  sprite : Sprite
  visible : Bool := false
  released : Bool := false
  deriving DecidableEq

def SpriteRecord.isShown (r : SpriteRecord) : Bool := r.visible && !r.released

structure Ledger where
  records : List SpriteRecord := []
  sorts : Nat := 0
  deriving DecidableEq

namespace Ledger

def create (s : Ledger) (sprite : Sprite) : Nat × Ledger :=
  (s.records.length, { s with records := s.records ++ [{ sprite }] })

def setVisible (s : Ledger) (handle : Nat) (visible : Bool) : Ledger :=
  { s with records := s.records.modify handle ({ · with visible }) }

def release (s : Ledger) (handle : Nat) : Ledger :=
  { s with records := s.records.modify handle ({ · with visible := false, released := true }) }

def sortChildren (s : Ledger) : Ledger := { s with sorts := s.sorts + 1 }

instance : Stage Ledger Nat where
  create := create
  setVisible s handle visible := (handle, s.setVisible handle visible)
  release := release
  sortChildren := sortChildren

def record? (s : Ledger) (id : String) : Option SpriteRecord :=
  s.records.reverse.find? (·.sprite.layerId = id)

def isVisible (s : Ledger) (id : String) : Bool := (s.record? id).any (·.isShown)

def drawn (s : Ledger) : List String :=
  ((s.records.filter (·.isShown)).mergeSort fun a b => a.sprite.zIndex ≤ b.sprite.zIndex).map
    (·.sprite.layerId)

def releasedCount (s : Ledger) : Nat := s.records.countP (·.released)

end Ledger

end Portrait
