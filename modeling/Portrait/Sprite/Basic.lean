import Portrait.Model
import Portrait.Sprite.BlendMode

namespace Portrait

structure Sprite where
  layerId : String
  address : String
  zIndex : Int32
  blend : BlendMode
  deriving DecidableEq

def Model.sprite (m : Model) (l : Layer) : Sprite :=
  ⟨l.id, m.assetAddress l, l.order, .ofLayerName l.name⟩

/-- A stage shows sprites.  It answers the creation of one with the handle that names the sprite, and
may put another handle in its place whenever the sprite is shown or hidden. -/
class Stage (σ : Type) (Handle : outParam Type) where
  create : σ → Sprite → Handle × σ
  setVisible : σ → Handle → Bool → Handle × σ
  release : σ → Handle → σ := fun s _ => s
  sortChildren : σ → σ := id

end Portrait
