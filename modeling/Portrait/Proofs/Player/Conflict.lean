import Mathlib
import Portrait.Proofs.Player.Run
import Portrait.Proofs.Player.State
import Portrait.Proofs.Pose.Groups
import Portrait.Sprite.Ledger

/-! Active poses do not get in each other's way, unless a pose is added on top of them. -/

namespace Portrait

theorem PlayerState.mem_evictConflicts {t : PoseTable} {s : PlayerState} {pose a : String} :
    a ∈ (s.evictConflicts t pose).2.active ↔
      a ∈ s.active ∧ (t.affectedGroups a).Disjoint (t.affectedGroups pose) := by
  rw [evictConflicts, evict_active, List.mem_filter, Bool.not_eq_true', PoseTable.conflict_eq_false_iff]

structure PlayerState.ConflictFree (t : PoseTable) (s : PlayerState) : Prop where
  nodup : s.active.Nodup
  apart : t.Apart s.active

namespace PlayerState.ConflictFree

variable {t : PoseTable} {m : Model} {s s' : PlayerState} {pose : String}

theorem nil (h : s.active = []) : s.ConflictFree t where
  nodup := h ▸ .nil
  apart := by simp [PoseTable.Apart, h]

theorem sublist (h : s.ConflictFree t) (hsub : s'.active.Sublist s.active) : s'.ConflictFree t where
  nodup := hsub.nodup h.nodup
  apart := h.apart.mono hsub.subset

theorem activate (h : s.ConflictFree t)
    (hpose : ∀ a ∈ s.active, a ≠ pose → (t.affectedGroups a).Disjoint (t.affectedGroups pose)) :
    (s.activate pose).2.ConflictFree t where
  nodup := nodup_activate h.nodup
  apart a ha b hb hne := by
    rcases mem_activate.mp ha with ha' | rfl <;> rcases mem_activate.mp hb with hb' | rfl
    · exact h.apart a ha' b hb' hne
    · exact hpose a ha' hne
    · exact (hpose b hb' hne.symm).symm
    · exact absurd rfl hne

theorem setPose (h : s.ConflictFree t) (pose : String) :
    ((s.evictConflicts t pose).2.activate pose).2.ConflictFree t := by
  have hsub : (s.evictConflicts t pose).2.active.Sublist s.active := by
    rw [evictConflicts, evict_active]
    exact List.filter_sublist
  apply (h.sublist hsub).activate
  intro a ha _
  exact (mem_evictConflicts.mp ha).2

theorem activateAll {poses : List String} (h : t.Apart poses) :
    (({} : PlayerState).activateAll poses).ConflictFree t where
  nodup := nodup_activateAll .nil
  apart := h.mono fun _ hx => (mem_activateAll.mp hx).resolve_left List.not_mem_nil

theorem perform (hdefaults : m.poses.Apart m.defaultPoses) {a : Action} (ha : ∀ pose, a ≠ .addPose pose)
    (h : s.ConflictFree m.poses) : (s.perform m a).ConflictFree m.poses := by
  cases a with
  | setPose pose =>
    rw [PlayerState.perform]
    split
    · exact h.setPose pose
    · exact h
  | addPose pose => exact absurd rfl (ha pose)
  | removePose pose => exact h.sublist List.filter_sublist
  | setLayer id visible => exact h.sublist (.refl s.active)
  | clearGroup group => exact h.sublist (.refl s.active)
  | reset => exact activateAll hdefaults

end PlayerState.ConflictFree

namespace Player

variable {σ Handle : Type} [Stage σ Handle]

theorem Run.conflictFree {m : Model} {stage : σ} {operations : List Operation} {p : Player σ Handle}
    (hdefaults : m.poses.Apart m.defaultPoses) (hadd : ∀ pose, .perform (.addPose pose) ∉ operations)
    (h : Run operate m stage operations p) : p.state.ConflictFree m.poses := by
  induction h with
  | start _ =>
    rw [Player.start, perform_state]
    exact .activateAll hdefaults
  | @move operations p o es hrun _ ih =>
    have hmodel : p.model = m := hrun.model_eq operate_model
    have free := ih fun pose hp => hadd pose (List.mem_append_left _ hp)
    cases o with
    | perform a =>
      have ha : ∀ pose, a ≠ .addPose pose := by
        rintro pose rfl
        exact hadd pose (List.mem_append_right _ (List.mem_singleton_self _))
      rw [operate, perform_state]
      exact hmodel ▸ free.perform hdefaults ha
    | teardown => exact .nil rfl

/-- If the default poses take hold of disjoint groups, then so do the active poses in every state of
every run that adds no pose: setting one sends those away that share a group with it.  And no pose is
active twice. -/
theorem active_apart_of_run {m : Model} {stage : σ} {operations : List Operation}
    {p : Player σ Handle} (hdefaults : m.poses.Apart m.defaultPoses)
    (hadd : ∀ pose, .perform (.addPose pose) ∉ operations) (h : Run operate m stage operations p) :
    p.state.active.Nodup ∧ m.poses.Apart p.state.active :=
  have free := h.conflictFree hdefaults hadd
  ⟨free.nodup, free.apart⟩

def gestures : Model where
  assets := { layers := [.conventional "Arm" "Up", .conventional "Arm" "Down",
    .conventional "Face" "Smile"] }
  controller := {
    defaultPoses := ["Lower", "Nod", "Smile", "Lower"]
    poses := .ofList [("Lower", ["Arm>Down", "Raise"]), ("Raise", ["Lower", "Arm>Up"]),
      ("Smile", ["Face+Smile", "Arm-Up"]), ("Wink", ["Face-Smile"])] }

def gesturing : List Operation :=
  [.perform (.setPose "Lower"), .teardown, .perform .reset, .perform (.setPose "Wink"),
    .perform (.setPose "Wave"), .perform (.setPose "Raise"), .perform (.clearGroup "Arm")]

def gestured : Player Ledger Nat := gesturing.foldl operate (.start gestures ({} : Ledger))

theorem active_apart_of_run_gestures :
    gestures.poses.Apart gestures.defaultPoses ∧
    (∀ pose, Operation.perform (.addPose pose) ∉ gesturing) ∧
    Run operate gestures ({} : Ledger) gesturing gestured ∧
    gestured.state.active = ["Nod", "Smile", "Wink", "Raise"] ∧
    gestures.poses.Apart ["Nod", "Smile", "Wink", "Raise"] := by
  have defaults : gestures.poses.Apart gestures.defaultPoses := PoseTable.apart_iff_all.mpr (by cbv)
  have hadd : ∀ pose, Operation.perform (.addPose pose) ∉ gesturing := by simp [gesturing]
  have run : Run operate gestures ({} : Ledger) gesturing gestured :=
    .foldl_start operate gestures ({} : Ledger) gesturing
  have active : gestured.state.active = ["Nod", "Smile", "Wink", "Raise"] := by cbv
  exact ⟨defaults, hadd, run, active, active ▸ (active_apart_of_run defaults hadd run).2⟩

end Player

end Portrait
