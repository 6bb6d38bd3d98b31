import Mathlib
import Portrait.Proofs.Player.Override
import Portrait.Proofs.Player.Records
import Portrait.Proofs.Pose.Tidy

/-! A model without the entries that mean nothing is played as the model is: all that they ever do is
to keep unknown names among the active poses. -/

namespace Portrait

/-- The model without base commands that have no effect, without unknown default poses, and without
items of poses that neither name a pose nor have an effect. -/
def Model.tidy (m : Model) : Model :=
  { m with
    controller := {
      baseLayers := effectiveCommands m.baseLayers
      defaultPoses := m.defaultPoses.filter m.hasPose
      poses := m.poses.tidy } }

@[simp] theorem Model.hasPose_tidy (m : Model) (pose : String) : m.tidy.hasPose pose = m.hasPose pose :=
  PoseTable.contains_tidy

variable {m : Model} {pose : String}

namespace PlayerState

def known (m : Model) (s : PlayerState) : PlayerState := { s with active := s.active.filter m.hasPose }

variable {s : PlayerState}

theorem known_activate (h : m.hasPose pose = true) :
    ((s.known m).activate pose).2 = (s.activate pose).2.known m := by
  have hmem : pose ∈ s.active.filter m.hasPose ↔ pose ∈ s.active := by simp [List.mem_filter, h]
  ext1
  · simp only [known, activate_active, hmem]
    split
    · rfl
    · rw [List.filter_append, List.filter_cons_of_pos h, List.filter_nil]
  · simp [known]

theorem known_activate_of_unknown (h : m.hasPose pose = false) :
    (s.activate pose).2.known m = s.known m := by
  ext1
  · simp only [known, activate_active]
    split
    · rfl
    · simp [List.filter_append, h]
  · simp [known]

theorem known_activateAll (poses : List String) :
    (s.known m).activateAll (poses.filter m.hasPose) = (s.activateAll poses).known m := by
  induction poses generalizing s with
  | nil => rfl
  | cons pose poses ih =>
    rw [activateAll_cons, ← ih]
    cases h : m.hasPose pose with
    | true => rw [List.filter_cons_of_pos h, activateAll_cons, known_activate h]
    | false =>
      rw [List.filter_cons_of_neg (by simp [h]), known_activate_of_unknown h]

theorem known_evictConflicts (s : PlayerState) (pose : String) :
    ((s.known m).evictConflicts m.poses.tidy pose).2 = (s.evictConflicts m.poses pose).2.known m := by
  ext1
  · simp only [known, evictConflicts, evict_active, PoseTable.conflict_tidy]
    exact List.filter_comm ..
  · rfl

theorem known_perform (s : PlayerState) (a : Action) :
    (s.known m).perform m.tidy a = (s.perform m a).known m := by
  cases a with
  | setPose pose =>
    rw [perform, perform, Model.hasPose_tidy]
    split
    · rename_i h
      rw [← known_activate h, ← known_evictConflicts]
      rfl
    · rfl
  | addPose pose =>
    rw [perform, perform, Model.hasPose_tidy]
    split
    · rename_i h
      exact known_activate h
    · rfl
  | removePose pose =>
    ext1
    · exact List.filter_comm ..
    · rfl
  | setLayer id visible => rfl
  | clearGroup group => rfl
  | reset => exact known_activateAll (s := {}) m.defaultPoses

theorem known_operate (s : PlayerState) (o : Player.Operation) :
    o.state m.tidy (s.known m) = (o.state m s).known m := by
  cases o with
  | perform a => exact known_perform s a
  | teardown => rfl

theorem known_foldl (s : PlayerState) (operations : List Player.Operation) :
    operations.foldl (Player.Operation.state m.tidy) (s.known m) =
      (operations.foldl (Player.Operation.state m) s).known m := by
  induction operations generalizing s with
  | nil => rfl
  | cons o operations ih => rw [List.foldl_cons, List.foldl_cons, known_operate, ih]

theorem flatMap_resolve_known (m : Model) (poses : List String) :
    (poses.filter m.hasPose).flatMap m.poses.tidy.resolve =
      effectiveCommands (poses.flatMap m.poses.resolve) := by
  induction poses with
  | nil => rfl
  | cons pose poses ih =>
    rw [List.flatMap_cons, effectiveCommands_append, ← ih, ← PoseTable.resolve_tidy]
    cases h : m.hasPose pose with
    | true => rw [List.filter_cons_of_pos h, List.flatMap_cons]
    | false =>
      have hnone : m.poses.tidy.resolve pose = [] :=
        PoseTable.resolve_of_undefined (PoseTable.contains_tidy.trans h)
      rw [List.filter_cons_of_neg (by simp [h]), hnone, List.nil_append]

theorem visibility_known (m : Model) (s : PlayerState) :
    (s.known m).visibility m.tidy = s.visibility m := by
  have hcommands : (s.known m).commands m.tidy = effectiveCommands (s.commands m) := by
    rw [commands, commands, effectiveCommands_append, ← flatMap_resolve_known]
    rfl
  rw [visibility_eq, visibility_eq, hcommands]
  exact congrArg (·.insertAll s.overrides.entries)
    (Visibility.applyAll_effectiveCommands m.layers ∅ (s.commands m))

end PlayerState

namespace Player

variable {operations : List Operation} {p q : Player Ledger Nat}

theorem Run.state_known {σ Handle : Type} [Stage σ Handle] {stage : σ} {p q : Player σ Handle}
    (hp : Run operate m stage operations p) (hq : Run operate m.tidy stage operations q) :
    q.state = p.state.known m := by
  rw [hp.operate_state_eq, hq.operate_state_eq, ← PlayerState.known_foldl,
    ← PlayerState.known_perform]
  rfl

/-- Entries that mean nothing are without effect.  Whatever happens to a player of the model and to one of
the tidy model: the same layers are visible, the same ones were set by hand, each pose takes hold of the
same groups, and the sprites are the same.  The active poses differ in the unknown names only. -/
theorem tidy_plays_alike (hp : Run operate m ({} : Ledger) operations p)
    (hq : Run operate m.tidy ({} : Ledger) operations q) :
    q.visibility = p.visibility ∧ q.state.overrides = p.state.overrides ∧
      (∀ pose, q.model.poses.affectedGroups pose = p.model.poses.affectedGroups pose) ∧
      q.stage.records = p.stage.records ∧ q.state.active = p.state.active.filter m.hasPose := by
  have hstate : q.state = p.state.known m := hp.state_known hq
  have hvisibility : q.visibility = p.visibility := by
    rw [visibility, visibility, hp.model_eq operate_model, hq.model_eq operate_model, hstate,
      PlayerState.visibility_known]
  refine ⟨hvisibility, by rw [hstate]; rfl, fun pose => ?_, ?_, by rw [hstate]; rfl⟩
  · rw [hp.model_eq operate_model, hq.model_eq operate_model]
    exact PoseTable.affectedGroups_tidy
  · exact hq.records_eq hp rfl rfl hvisibility

def cluttered : Model where
  assets := { layers := [.conventional "Arm" "Up", .conventional "Arm" "Down",
    .conventional "Leg" "Bent"] }
  controller := {
    baseLayers := ["", "Leg+Bent", "Leg", "+Up"]
    defaultPoses := ["Nod", "Raise", "Sit"]
    poses := .ofList [("Lower", ["-", "Raise", ">Down", "Arm>Down"]),
      ("Raise", ["Wave", "Lower", "Arm>Up"]), ("Rest", ["rest"])] }

def meddling : List Operation :=
  [.perform (.addPose "Rest"), .perform (.setPose "Lower"), .perform (.setPose "Sit"),
    .perform (.setLayer "Leg/Bent" false)]

def meddled (m : Model) : Player Ledger Nat := meddling.foldl operate (.start m ({} : Ledger))

theorem tidy_plays_alike_cluttered :
    Run operate cluttered ({} : Ledger) meddling (meddled cluttered) ∧
    Run operate cluttered.tidy ({} : Ledger) meddling (meddled cluttered.tidy) ∧
    cluttered.tidy.poses.entries = [("Lower", ["Raise", "Arm>Down"]), ("Raise", ["Lower", "Arm>Up"]),
      ("Rest", [])] ∧
    (meddled cluttered).state.active = ["Nod", "Sit", "Rest", "Lower"] ∧
    (meddled cluttered.tidy).state.active = ["Rest", "Lower"] ∧
    (meddled cluttered.tidy).stage.records = (meddled cluttered).stage.records := by
  have run (m : Model) : Run operate m ({} : Ledger) meddling (meddled m) :=
    .foldl_start operate m ({} : Ledger) meddling
  obtain ⟨-, -, -, records, active⟩ := tidy_plays_alike (run cluttered) (run cluttered.tidy)
  have unknown : (meddled cluttered).state.active = ["Nod", "Sit", "Rest", "Lower"] := by cbv
  rw [unknown] at active
  exact ⟨run _, run _, by cbv, unknown, active.trans (by cbv), records⟩

end Player

end Portrait
