import Mathlib.Data.List.Nodup
import Portrait.Player.Action

/-! What happens to the active poses of a player's state. -/

namespace Portrait

theorem splitBy_of_pure {κ : Type} (pick : String → Bool) (k : κ) (xs : List String) :
    splitBy (fun k x => (pick x, k)) k xs = (xs.filter pick, xs.filter (!pick ·), k) := by
  induction xs with
  | nil => rfl
  | cons x xs ih => cases hx : pick x <;> simp [splitBy, ih, hx]

namespace PlayerState

attribute [ext] PlayerState

variable {s : PlayerState} {pose x : String}

theorem isActive_iff : s.isActive pose = true ↔ pose ∈ s.active := List.contains_iff_mem

@[simp] theorem evict_active (pick : String → Bool) (s : PlayerState) :
    (s.evict pick).2.active = s.active.filter (!pick ·) := by
  simp [evict, evictWith, splitBy_of_pure]

@[simp] theorem deactivate_active (s : PlayerState) (pose : String) :
    (s.deactivate pose).2.active = s.active.filter (· ≠ pose) := rfl

@[simp] theorem setOverride_active (s : PlayerState) (id : String) (visible : Bool) :
    (s.setOverride id visible).active = s.active := rfl

@[simp] theorem clearOverrides_active (s : PlayerState) (start : String) :
    (s.clearOverrides start).2.active = s.active := rfl

theorem activate_active (s : PlayerState) (pose : String) :
    (s.activate pose).2.active = if pose ∈ s.active then s.active else s.active ++ [pose] := by
  by_cases h : pose ∈ s.active <;> simp [activate, isActive_iff, h]

theorem mem_activate : x ∈ (s.activate pose).2.active ↔ x ∈ s.active ∨ x = pose := by
  rw [activate_active]
  split
  · rename_i h
    exact ⟨.inl, fun hx => hx.elim id (· ▸ h)⟩
  · simp

theorem nodup_activate (h : s.active.Nodup) : (s.activate pose).2.active.Nodup := by
  rw [activate_active]
  split
  · exact h
  · rename_i hnew
    exact h.append (List.nodup_singleton pose) (by simpa using hnew)

theorem activateAll_cons (s : PlayerState) (pose : String) (poses : List String) :
    s.activateAll (pose :: poses) = (s.activate pose).2.activateAll poses := rfl

theorem mem_activateAll {poses : List String} :
    x ∈ (s.activateAll poses).active ↔ x ∈ s.active ∨ x ∈ poses := by
  induction poses generalizing s with
  | nil => simp [activateAll]
  | cons pose poses ih =>
    rw [activateAll_cons, ih, mem_activate, List.mem_cons, or_assoc]

theorem nodup_activateAll {poses : List String} (h : s.active.Nodup) :
    (s.activateAll poses).active.Nodup := by
  induction poses generalizing s with
  | nil => exact h
  | cons pose poses ih => exact ih (nodup_activate h)

end PlayerState

end Portrait
