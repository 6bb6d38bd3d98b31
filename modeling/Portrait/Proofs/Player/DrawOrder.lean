import Mathlib
import Portrait.Proofs.Player.Mounting
import Portrait.Proofs.Sprite.Drawing

/-! The order in which a ledger draws: by level, and on one level the layers in their order. -/

namespace Portrait

/-- The last layer of the first id is on a lower level than that of the second one, or on the same level
and before it. -/
def DrawnBefore (layers : List Layer) (a b : String) : Prop :=
  ∃ (i j : Nat) (x y : Layer), LastAt (layers.map (·.id)) a i ∧ layers[i]? = some x ∧
    LastAt (layers.map (·.id)) b j ∧ layers[j]? = some y ∧ (x.order < y.order ∨ x.order = y.order ∧ i < j)

theorem DrawnBefore.irrefl {layers : List Layer} {a : String} : ¬ DrawnBefore layers a a := by
  rintro ⟨i, j, x, y, hi, hx, hj, hy, horder⟩
  obtain rfl := hi.eq hj
  obtain rfl := Option.some.inj (hx.symm.trans hy)
  rcases horder with hlt | ⟨-, hlt⟩
  · exact Int32.lt_irrefl hlt
  · exact Nat.lt_irrefl _ hlt

theorem nodup_of_pairwise_drawnBefore {layers : List Layer} {ids : List String}
    (h : ids.Pairwise (DrawnBefore layers)) : ids.Nodup := by
  apply h.imp
  rintro a b hbefore rfl
  exact hbefore.irrefl

namespace Player.Mounted

variable {m : Model} {layers : List Layer} {s : Ledger} {handles : List (String × Nat)}

/-- A shown record is the last one of its layer id. -/
theorem lastAt_of_isShown (h : Mounted m layers s handles) {i : Nat} {r : SpriteRecord}
    (hr : s.records[i]? = some r) (hshown : r.isShown = true) :
    LastAt (layers.map (·.id)) r.sprite.layerId i := by
  apply (h.released i r hr).mp
  simpa using (Bool.and_eq_true_iff.mp hshown).2

theorem mem_drawn (h : Mounted m layers s handles) {id : String} :
    id ∈ s.drawn ↔ s.isVisible id = true := by
  rw [Ledger.isVisible_iff, Ledger.drawn_eq, List.mem_map, h.ids_eq]
  constructor
  · rintro ⟨r, hr, rfl⟩
    obtain ⟨hr, hshown⟩ := Ledger.mem_shown.mp hr
    obtain ⟨i, hi⟩ := List.mem_iff_getElem?.mp hr
    exact ⟨i, r, h.lastAt_of_isShown hi hshown, hi, hshown⟩
  · rintro ⟨i, r, hlast, hr, hshown⟩
    refine ⟨r, Ledger.mem_shown.mpr ⟨List.mem_of_getElem? hr, hshown⟩, ?_⟩
    have hid := hlast.1
    rw [← h.ids_eq, Ledger.ids_getElem?, hr] at hid
    exact Option.some.inj hid

theorem exists_layer (h : Mounted m layers s handles) {i : Nat} {r : SpriteRecord}
    (hr : s.records[i]? = some r) : ∃ l, layers[i]? = some l ∧ r.sprite = m.sprite l := by
  have hsprite := congrArg (·[i]?) h.sprites
  simp only [List.getElem?_map, hr, Option.map_some] at hsprite
  obtain ⟨l, hl, heq⟩ := Option.map_eq_some_iff.mp hsprite.symm
  exact ⟨l, hl, heq.symm⟩

theorem pairwise_drawn (h : Mounted m layers s handles) : s.drawn.Pairwise (DrawnBefore layers) := by
  rw [Ledger.drawn_eq, List.pairwise_map]
  refine s.pairwise_shown.imp_of_mem ?_
  intro r r' hr hr' ⟨hle, htie⟩
  obtain ⟨hr, hshown⟩ := Ledger.mem_shown.mp hr
  obtain ⟨hr', hshown'⟩ := Ledger.mem_shown.mp hr'
  obtain ⟨i, hi⟩ := List.mem_iff_getElem?.mp hr
  obtain ⟨j, hj⟩ := List.mem_iff_getElem?.mp hr'
  obtain ⟨x, hx, hrx⟩ := h.exists_layer hi
  obtain ⟨y, hy, hry⟩ := h.exists_layer hj
  have hlast := h.lastAt_of_isShown hi hshown
  have hlast' := h.lastAt_of_isShown hj hshown'
  refine ⟨i, j, x, y, hlast, hx, hlast', hy, ?_⟩
  have horder : r.sprite.zIndex = x.order := by rw [hrx]; rfl
  have horder' : r'.sprite.zIndex = y.order := by rw [hry]; rfl
  rw [horder, horder'] at hle htie
  rcases Int32.lt_or_eq_of_le hle with hlt | heq
  · exact .inl hlt
  · obtain ⟨i', j', hlt, hi', hj'⟩ := htie (heq ▸ Int32.le_refl _)
    rw [hlast.eq (h.lastAt_of_isShown hi' hshown), hlast'.eq (h.lastAt_of_isShown hj' hshown')]
    exact .inr ⟨heq, hlt⟩

theorem nodup_drawn (h : Mounted m layers s handles) : s.drawn.Nodup :=
  nodup_of_pairwise_drawnBefore h.pairwise_drawn

end Player.Mounted

end Portrait
