import Mathlib.Data.List.Basic
import Portrait.Proofs.LastWriter
import Portrait.Proofs.Player.Conflict
import Portrait.Proofs.Player.Override

/-! What is active and what is visible after a pose was set, whatever was done before. -/

namespace Portrait

namespace PoseTable

variable {t : PoseTable} {a pose : String} {poses poses' : List String}

def sparedBy (t : PoseTable) (pose : String) (poses : List String) : List String :=
  poses.filter fun a => (t.affectedGroups a).all fun g => g ∉ t.affectedGroups pose

theorem mem_sparedBy : a ∈ t.sparedBy pose poses ↔
    a ∈ poses ∧ (t.affectedGroups a).Disjoint (t.affectedGroups pose) := by
  simp [sparedBy, List.disjoint_left]

theorem filter_not_conflict (t : PoseTable) (pose : String) (poses : List String) :
    (poses.filter fun a => !t.conflict a pose) = t.sparedBy pose poses := by
  apply List.filter_congr
  intro a _
  rw [Bool.eq_iff_iff, Bool.not_eq_true', conflict_eq_false_iff]
  simp [List.disjoint_left]

theorem sparedBy_append : t.sparedBy pose (poses ++ poses') =
    t.sparedBy pose poses ++ t.sparedBy pose poses' := List.filter_append ..

theorem sparedBy_sparedBy : t.sparedBy pose (t.sparedBy pose poses) = t.sparedBy pose poses := by
  simp [sparedBy, List.filter_filter]

theorem sparedBy_of_no_groups (h : t.affectedGroups pose = []) : t.sparedBy pose poses = poses := by
  simp [sparedBy, h]

theorem mem_sparedBy_self :
    pose ∈ t.sparedBy pose poses ↔ pose ∈ poses ∧ t.affectedGroups pose = [] := by
  rw [mem_sparedBy, List.eq_nil_iff_forall_not_mem]
  exact and_congr_right' ⟨fun h g hg => h hg hg, fun h g hg _ => h g hg⟩

theorem sparedBy_singleton_self (h : t.affectedGroups pose ≠ []) : t.sparedBy pose [pose] = [] := by
  rw [List.eq_nil_iff_forall_not_mem]
  intro a ha
  obtain rfl := List.mem_singleton.mp (mem_sparedBy.mp ha).1
  exact h (mem_sparedBy_self.mp ha).2

end PoseTable

namespace PlayerState

variable {m : Model} {s : PlayerState} {pose : String}

theorem active_setPose (h : m.hasPose pose = true) : (s.perform m (.setPose pose)).active =
    if pose ∈ s.active ∧ m.poses.affectedGroups pose = [] then s.active
    else m.poses.sparedBy pose s.active ++ [pose] := by
  rw [perform, if_pos h, activate_active, evictConflicts, evict_active, PoseTable.filter_not_conflict]
  simp only [PoseTable.mem_sparedBy_self]
  split
  · rename_i hkept
    exact PoseTable.sparedBy_of_no_groups hkept.2
  · rfl

theorem active_setPose_of_moves (h : m.hasPose pose = true)
    (hmoves : pose ∉ s.active ∨ m.poses.affectedGroups pose ≠ []) :
    (s.perform m (.setPose pose)).active = m.poses.sparedBy pose s.active ++ [pose] := by
  rw [active_setPose h, if_neg]
  rintro ⟨hactive, hgroups⟩
  exact hmoves.elim (· hactive) (· hgroups)

theorem overrides_setPose (m : Model) (s : PlayerState) (pose : String) :
    (s.perform m (.setPose pose)).overrides = s.overrides :=
  overrides_perform_of_pose rfl (by simp)

theorem active_setPose_setPose (h : m.hasPose pose = true) :
    ((s.perform m (.setPose pose)).perform m (.setPose pose)).active =
      (s.perform m (.setPose pose)).active := by
  by_cases hgroups : m.poses.affectedGroups pose = []
  · have hactive : pose ∈ (s.perform m (.setPose pose)).active := by
      rw [perform, if_pos h]
      exact mem_activate.mpr (.inr rfl)
    rw [active_setPose h, if_pos ⟨hactive, hgroups⟩]
  · rw [active_setPose_of_moves h (.inr hgroups), active_setPose_of_moves h (.inr hgroups),
      PoseTable.sparedBy_append, PoseTable.sparedBy_sparedBy,
      PoseTable.sparedBy_singleton_self hgroups, List.append_nil]

theorem setPose_setPose (m : Model) (s : PlayerState) (pose : String) :
    (s.perform m (.setPose pose)).perform m (.setPose pose) = s.perform m (.setPose pose) := by
  cases h : m.hasPose pose with
  | false => simp only [perform_of_not_updates (a := .setPose pose) s h]
  | true => exact PlayerState.ext (active_setPose_setPose h) (overrides_setPose m _ pose)

theorem exists_visibility_setPose {id raw : String} (h : m.hasPose pose = true)
    (hmoves : pose ∉ s.active ∨ m.poses.affectedGroups pose ≠ []) (hraw : raw ∈ m.poses.resolve pose)
    (hwrites : (Command.parse raw).Writes m.layers id) (hfree : s.overrides.get? id = none) :
    ∃ visible, ((s.perform m (.setPose pose)).visibility m).get? id = some visible ∧
      ∀ v : Visibility, (v.applyAll m.layers (m.poses.resolve pose)).get? id = some visible := by
  obtain ⟨last, hlast⟩ :=
    exists_isLast (p := fun raw => (Command.parse raw).Writes m.layers id) hraw hwrites
  obtain ⟨visible, -, hget⟩ := Visibility.exists_get?_applyAll hlast
  refine ⟨visible, ?_, hget⟩
  have hcommands : (s.perform m (.setPose pose)).commands m =
      (m.baseLayers ++ (m.poses.sparedBy pose s.active).flatMap m.poses.resolve) ++
        m.poses.resolve pose := by
    simp [commands, active_setPose_of_moves h hmoves]
  rw [get?_visibility, overrides_setPose, hfree, Option.none_or, hcommands, Visibility.applyAll_append,
    hget]

end PlayerState

namespace Player

variable {σ Handle : Type} [Stage σ Handle]

/-- Setting a pose, in any state of a player.  A pose that is unknown changes nothing at all.  Any other
one leaves the settings by hand alone, sends away the active poses that share a group with it and comes
last; a pose without groups that is active already keeps its place.  To set it once more changes nothing.
Unless it kept its place, an id that it writes and that is not set by hand is as visible as the pose
alone makes it. -/
theorem setPose_takes_over (p : Player σ Handle) (pose : String) :
    (p.model.hasPose pose = false → p.perform (.setPose pose) = p) ∧
    (p.model.hasPose pose = true →
      (p.perform (.setPose pose)).state.overrides = p.state.overrides ∧
      (p.perform (.setPose pose)).state.active =
        if pose ∈ p.state.active ∧ p.model.poses.affectedGroups pose = [] then p.state.active
        else p.model.poses.sparedBy pose p.state.active ++ [pose]) ∧
    ((p.perform (.setPose pose)).perform (.setPose pose)).state = (p.perform (.setPose pose)).state ∧
    (p.model.hasPose pose = true → pose ∉ p.state.active ∨ p.model.poses.affectedGroups pose ≠ [] →
      ∀ raw ∈ p.model.poses.resolve pose, ∀ id, (Command.parse raw).Writes p.model.layers id →
        p.state.overrides.get? id = none →
          ∃ visible, (p.perform (.setPose pose)).visibility.get? id = some visible ∧
            ((∅ : Visibility).applyAll p.model.layers (p.model.poses.resolve pose)).get? id =
              some visible) := by
  simp only [perform_state, perform_model, visibility]
  refine ⟨?unknown, ?active, ?again, ?visible⟩
  case unknown => exact fun h => perform_of_not_updates (a := .setPose pose) h
  case active =>
    intro h
    exact ⟨PlayerState.overrides_setPose .., PlayerState.active_setPose h⟩
  case again => exact PlayerState.setPose_setPose ..
  case visible =>
    intro h hmoves raw hraw id hwrites hfree
    obtain ⟨visible, hvisible, halone⟩ :=
      PlayerState.exists_visibility_setPose h hmoves hraw hwrites hfree
    exact ⟨visible, hvisible, halone ∅⟩

end Player

end Portrait
