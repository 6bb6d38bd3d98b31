import Mathlib
import Portrait.Proofs.Player.Run
import Portrait.Proofs.Player.State
import Portrait.Proofs.Visibility
import Portrait.Sprite.Ledger

/-! Layers shown or hidden by hand: the last word on an id counts until it is taken back, whatever
happens to the poses meanwhile. -/

namespace Portrait

namespace Action

def isOverride : Action → Bool
  | .setLayer .. | .clearGroup _ => true
  | _ => false

def Spares (id : String) : Action → Prop
  | .setLayer id' _ => id' ≠ id
  | .clearGroup group => ¬ group.toList <+: id.toList
  | .reset => False
  | _ => True

instance (id : String) : (a : Action) → Decidable (a.Spares id)
  | .setLayer id' _ => inferInstanceAs (Decidable (id' ≠ id))
  | .clearGroup group => inferInstanceAs (Decidable (¬ group.toList <+: id.toList))
  | .reset => inferInstanceAs (Decidable False)
  | .setPose _ | .addPose _ | .removePose _ => inferInstanceAs (Decidable True)

end Action

namespace PlayerState

variable {m : Model} {s s' : PlayerState} {a : Action} {actions : List Action} {id : String}

/-! ### Overrides and active poses do not depend on each other -/

@[simp] theorem evict_overrides (pick : String → Bool) (s : PlayerState) :
    (s.evict pick).2.overrides = s.overrides := rfl

@[simp] theorem activate_overrides (s : PlayerState) (pose : String) :
    (s.activate pose).2.overrides = s.overrides := by
  rw [activate]
  split <;> rfl

@[simp] theorem activateAll_overrides (s : PlayerState) (poses : List String) :
    (s.activateAll poses).overrides = s.overrides := by
  induction poses generalizing s with
  | nil => rfl
  | cons pose poses ih => rw [activateAll_cons, ih, activate_overrides]

theorem active_perform_of_isOverride (h : a.isOverride = true) :
    (s.perform m a).active = s.active := by
  cases a <;> first | rfl | cases h

theorem active_perform_congr (h : s.active = s'.active) (a : Action) :
    (s.perform m a).active = (s'.perform m a).active := by
  cases a with
  | setPose pose =>
    simp only [perform]
    split
    · simp only [activate_active, evictConflicts, evict_active, h]
    · exact h
  | addPose pose =>
    simp only [perform]
    split
    · simp only [activate_active, h]
    · exact h
  | removePose pose => simp only [perform, deactivate_active, h]
  | setLayer id visible => exact h
  | clearGroup group => exact h
  | reset => rfl

theorem overrides_perform_of_pose (h : a.isOverride = false) (hreset : a ≠ .reset) :
    (s.perform m a).overrides = s.overrides := by
  cases a with
  | setPose pose =>
    rw [perform]
    split
    · rw [activate_overrides, evictConflicts, evict_overrides]
    · rfl
  | addPose pose =>
    rw [perform]
    split
    · exact activate_overrides s pose
    · rfl
  | removePose pose => rfl
  | setLayer id visible => cases h
  | clearGroup group => cases h
  | reset => exact absurd rfl hreset

theorem overrides_perform_congr (h : s.overrides = s'.overrides) (ha : a.isOverride = true) :
    (s.perform m a).overrides = (s'.perform m a).overrides := by
  cases a with
  | setLayer id visible => simp only [perform, setOverride, h]
  | clearGroup group => simp only [perform, clearOverrides, h]
  | _ => cases ha

theorem active_foldl_filter (h : s.active = s'.active) (actions : List Action) :
    (actions.foldl (perform m) s).active =
      ((actions.filter (!·.isOverride)).foldl (perform m) s').active := by
  induction actions generalizing s s' with
  | nil => exact h
  | cons a actions ih =>
    cases ha : a.isOverride with
    | true =>
      rw [List.filter_cons_of_neg (by simp [ha])]
      exact ih ((active_perform_of_isOverride ha).trans h)
    | false =>
      rw [List.filter_cons_of_pos (by simp [ha])]
      exact ih (active_perform_congr h a)

theorem overrides_foldl_filter (h : s.overrides = s'.overrides) (hreset : .reset ∉ actions) :
    (actions.foldl (perform m) s).overrides =
      ((actions.filter (·.isOverride)).foldl (perform m) s').overrides := by
  induction actions generalizing s s' with
  | nil => exact h
  | cons a actions ih =>
    rw [List.mem_cons, not_or] at hreset
    obtain ⟨hne, hreset⟩ := hreset
    cases ha : a.isOverride with
    | true =>
      rw [List.filter_cons_of_pos ha]
      exact ih (overrides_perform_congr h ha) hreset
    | false =>
      rw [List.filter_cons_of_neg (by simp [ha])]
      exact ih ((overrides_perform_of_pose ha (Ne.symm hne)).trans h) hreset

theorem foldl_interleave {segment segment' : List Action} (hreset : .reset ∉ segment)
    (hoverrides : segment'.filter (·.isOverride) = segment.filter (·.isOverride))
    (hposes : segment'.filter (!·.isOverride) = segment.filter (!·.isOverride)) :
    segment'.foldl (perform m) s = segment.foldl (perform m) s := by
  have hreset' : .reset ∉ segment' := by
    intro hmem
    have : .reset ∈ segment'.filter (!·.isOverride) := List.mem_filter.mpr ⟨hmem, rfl⟩
    rw [hposes] at this
    exact hreset (List.mem_filter.mp this).1
  have hactive : (segment'.foldl (perform m) s).active = (segment.foldl (perform m) s).active := by
    rw [active_foldl_filter rfl, active_foldl_filter rfl segment, hposes]
  have hover : (segment'.foldl (perform m) s).overrides = (segment.foldl (perform m) s).overrides := by
    rw [overrides_foldl_filter rfl hreset', overrides_foldl_filter rfl hreset, hoverrides]
  exact PlayerState.ext hactive hover

/-! ### The last word on an id -/

theorem get?_overrides_of_spares (h : a.Spares id) :
    (s.perform m a).overrides.get? id = s.overrides.get? id := by
  cases a with
  | setPose pose => rw [overrides_perform_of_pose rfl (by simp)]
  | addPose pose => rw [overrides_perform_of_pose rfl (by simp)]
  | removePose pose => rfl
  | setLayer id' visible =>
    rw [perform, setOverride, SortedMap.get?_insert, if_neg (Ne.symm h)]
  | clearGroup group =>
    rw [perform, clearOverrides, SortedMap.get?_filter, if_pos]
    simpa [Action.Spares, ← List.isPrefixOf_iff_prefix] using h
  | reset => cases h

theorem get?_overrides_setLayer (s : PlayerState) (id : String) (visible : Bool) :
    (s.perform m (.setLayer id visible)).overrides.get? id = some visible := by
  rw [perform, setOverride, SortedMap.get?_insert, if_pos rfl]

theorem get?_overrides_of_not_spares (h : ¬ a.Spares id) (ha : ∀ visible, a ≠ .setLayer id visible) :
    (s.perform m a).overrides.get? id = none := by
  cases a with
  | setLayer id' visible =>
    obtain rfl : id' = id := by simpa [Action.Spares] using h
    exact absurd rfl (ha visible)
  | clearGroup group =>
    rw [perform, clearOverrides, SortedMap.get?_filter, if_neg]
    simpa [Action.Spares] using h
  | reset => rw [perform, activateAll_overrides, SortedMap.get?_empty]
  | _ => exact absurd trivial h

theorem get?_foldl_of_spares (h : ∀ a ∈ actions, a.Spares id) :
    (actions.foldl (perform m) s).overrides.get? id = s.overrides.get? id := by
  induction actions generalizing s with
  | nil => rfl
  | cons a actions ih =>
    obtain ⟨ha, hactions⟩ := List.forall_mem_cons.mp h
    rw [List.foldl_cons, ih hactions, get?_overrides_of_spares ha]

theorem get?_foldl_of_setLayer {before after : List Action} {visible : Bool}
    (h : ∀ a ∈ after, a.Spares id) :
    ((before ++ .setLayer id visible :: after).foldl (perform m) s).overrides.get? id =
      some visible := by
  rw [List.foldl_append, List.foldl_cons, get?_foldl_of_spares h, get?_overrides_setLayer]

theorem get?_foldl_eq_none (hs : s.overrides.get? id = none)
    (h : ∀ before visible after, actions = before ++ .setLayer id visible :: after →
      ∃ a ∈ after, ¬ a.Spares id) :
    (actions.foldl (perform m) s).overrides.get? id = none := by
  induction actions using List.reverseRecOn with
  | nil => exact hs
  | append_singleton actions a ih =>
    rw [List.foldl_append, List.foldl_cons, List.foldl_nil]
    by_cases hspares : a.Spares id
    · rw [get?_overrides_of_spares hspares]
      apply ih
      rintro before visible after rfl
      obtain ⟨x, hx, hnot⟩ := h before visible (after ++ [a]) (by simp)
      rcases List.mem_append.mp hx with hx | hx
      · exact ⟨x, hx, hnot⟩
      · exact absurd (List.mem_singleton.mp hx ▸ hspares) hnot
    · apply get?_overrides_of_not_spares hspares
      rintro visible rfl
      obtain ⟨x, hx, -⟩ := h actions visible [] rfl
      cases hx

theorem get?_visibility (m : Model) (s : PlayerState) (id : String) :
    (s.visibility m).get? id =
      (s.overrides.get? id).or (((∅ : Visibility).applyAll m.layers (s.commands m)).get? id) := by
  rw [visibility_eq, SortedMap.get?_insertAll_entries]

end PlayerState

namespace Player

variable {σ Handle : Type} [Stage σ Handle]

def stateAfter (m : Model) (actions : List Action) : PlayerState :=
  actions.foldl (PlayerState.perform m) (({} : PlayerState).perform m .reset)

theorem Run.visibility_eq {m : Model} {stage : σ} {actions : List Action} {p : Player σ Handle}
    (h : Run perform m stage actions p) : p.visibility = (stateAfter m actions).visibility m := by
  rw [visibility, h.state_eq, h.model_eq perform_model, stateAfter]

/-- A layer set by hand stays as it was set last, unless it is taken back after that by a reset or for
a text that its id starts with; if it was never set or is taken back, it is as without any setting by
hand.  Settings by hand do not touch the active poses, and between two resets it does not matter how
they and the actions on poses are interleaved. -/
theorem override_precedence_of_run {m : Model} {stage : σ} {actions : List Action}
    {p : Player σ Handle} (h : Run perform m stage actions p) :
    (∀ id before visible after, actions = before ++ .setLayer id visible :: after →
      (∀ a ∈ after, a.Spares id) → p.visibility.get? id = some visible) ∧
    (∀ (stage' : σ) p', Run perform m stage' (actions.filter (!·.isOverride)) p' →
      p'.state.active = p.state.active ∧
      ∀ id, (∀ before visible after, actions = before ++ .setLayer id visible :: after →
          ∃ a ∈ after, ¬ a.Spares id) →
        p.visibility.get? id = p'.visibility.get? id) ∧
    ∀ before segment segment' after, actions = before ++ segment ++ after → .reset ∉ segment →
      segment'.filter (·.isOverride) = segment.filter (·.isOverride) →
      segment'.filter (!·.isOverride) = segment.filter (!·.isOverride) →
        ∀ (stage' : σ) p', Run perform m stage' (before ++ segment' ++ after) p' →
          p'.state = p.state ∧ p'.visibility = p.visibility := by
  refine ⟨?last, ?otherwise, ?interleave⟩
  case last =>
    rintro id before visible after rfl hspares
    rw [h.visibility_eq, PlayerState.get?_visibility, stateAfter,
      PlayerState.get?_foldl_of_setLayer hspares, Option.some_or]
  case otherwise =>
    intro stage' p' h'
    have hactive : p'.state.active = p.state.active := by
      rw [h.state_eq, h'.state_eq, PlayerState.active_foldl_filter rfl actions]
    refine ⟨hactive, fun id hid => ?_⟩
    have hstart : (({} : PlayerState).perform m .reset).overrides.get? id = none := by
      rw [PlayerState.perform, PlayerState.activateAll_overrides, SortedMap.get?_empty]
    have hset : p.state.overrides.get? id = none := by
      rw [h.state_eq]
      exact PlayerState.get?_foldl_eq_none hstart hid
    have hset' : p'.state.overrides.get? id = none := by
      rw [h'.state_eq]
      refine PlayerState.get?_foldl_eq_none hstart fun before visible after heq => ?_
      have hmem : .setLayer id visible ∈ actions.filter (!·.isOverride) := by simp [heq]
      cases (List.mem_filter.mp hmem).2
    rw [visibility, visibility, h.model_eq perform_model, h'.model_eq perform_model,
      PlayerState.get?_visibility, PlayerState.get?_visibility, hset, hset', PlayerState.commands,
      PlayerState.commands, hactive]
  case interleave =>
    rintro before segment segment' after rfl hreset hoverrides hposes stage' p' h'
    have hstate : stateAfter m (before ++ segment' ++ after) = stateAfter m (before ++ segment ++ after) := by
      simp only [stateAfter, List.foldl_append,
        PlayerState.foldl_interleave hreset hoverrides hposes]
    refine ⟨?_, by rw [h.visibility_eq, h'.visibility_eq, hstate]⟩
    rw [h.state_eq, h'.state_eq]
    exact hstate

def knight : Model where
  assets := { layers := [.conventional "Arm" "Up", .conventional "Arm" "Down",
    .conventional "Armor" "Plate", .conventional "Face" "Smile"] }
  controller := {
    baseLayers := ["Armor-Plate"]
    defaultPoses := ["Rest"]
    poses := .ofList [("Lift", ["Arm>Up"]), ("Rest", ["Arm>Down", "Face+Smile"])] }

def dressing : List Action :=
  [.setLayer "Armor/Plate" true, .setLayer "Face/Smile" true, .setLayer "Arm/Up" false,
    .clearGroup "Arm", .setPose "Lift", .setLayer "Face/Smile" false, .addPose "Rest",
    .clearGroup "Hat"]

def posing : List Action := [.setPose "Lift", .addPose "Rest"]

def settingByHand : List Action :=
  [.setLayer "Armor/Plate" true, .setLayer "Face/Smile" true, .setLayer "Arm/Up" false,
    .clearGroup "Arm", .setLayer "Face/Smile" false, .clearGroup "Hat"]

def dressed (actions : List Action) : Player Ledger Nat :=
  actions.foldl perform (.start knight ({} : Ledger))

theorem override_precedence_of_run_knight :
    Run perform knight ({} : Ledger) dressing (dressed dressing) ∧
    (dressed dressing).visibility.get? "Face/Smile" = some false ∧
    (dressed dressing).visibility.get? "Armor/Plate" = some false ∧
    (dressed dressing).state.active = ["Lift", "Rest"] ∧
    (dressed dressing).visibility = (dressed (posing ++ settingByHand)).visibility := by
  have run (actions : List Action) : Run perform knight ({} : Ledger) actions (dressed actions) :=
    .foldl_start perform knight ({} : Ledger) actions
  obtain ⟨last, otherwise, interleave⟩ := override_precedence_of_run (run dressing)
  have poses : dressing.filter (!·.isOverride) = posing := by decide
  have posed : (dressed posing).state.active = ["Lift", "Rest"] := by cbv
  have plate : (dressed posing).visibility.get? "Armor/Plate" = some false := by cbv
  obtain ⟨active, unset⟩ := otherwise ({} : Ledger) (dressed posing) (poses ▸ run posing)
  refine ⟨run dressing, ?smile, ?armor, active ▸ posed, ?order⟩
  case smile =>
    exact last "Face/Smile" (dressing.take 5) false (dressing.drop 6) (by decide) (by decide)
  case armor =>
    rw [unset "Armor/Plate" ?_, plate]
    rintro (_ | ⟨b, before⟩) visible after heq
    · obtain ⟨-, rfl⟩ := List.cons.inj heq
      exact ⟨.clearGroup "Arm", by decide, by decide⟩
    · have hlater : .setLayer "Armor/Plate" visible ∈ dressing.tail := by simp [heq]
      exact absurd hlater (by cases visible <;> decide)
  case order =>
    exact ((interleave [] dressing (posing ++ settingByHand) [] (by decide) (by decide) (by decide)
      (by decide) ({} : Ledger) _ (by simpa using run _)).2).symm

end Player

end Portrait
