import Mathlib
import Portrait.Proofs.Diagnostic.Clean
import Portrait.Proofs.Player.Run
import Portrait.Proofs.Pose.Sources
import Portrait.Proofs.Visibility
import Portrait.Sprite.Ledger

/-! What a clean model promises to its player. -/

namespace Portrait

theorem Command.Applies.exists_layer {layers : List Layer} {c : Command} (h : c.Applies layers)
    {id : String} (hid : id ∈ (c.effects layers).map (·.1)) : ∃ l ∈ layers, l.id = id := by
  rw [mem_keys_effects] at hid
  split at hid
  · rename_i ht
    rw [hid]
    exact h.layer ht
  · obtain ⟨l, hl, _, hid⟩ := hid
    exact ⟨l, hl, hid⟩

namespace Model.Clean

variable {m : Model} {raw id : String} {s : PlayerState}

theorem applies_of_mem_resolve (h : m.Clean) {pose : String} (hr : raw ∈ m.poses.resolve pose) :
    (Command.parse raw).Applies m.layers := by
  obtain ⟨q, hq, hrq⟩ := PoseTable.mem_resolve.mp hr
  exact h.literals q (SortedMap.contains_iff_mem_keys.mp hq.contains_right) raw hrq

theorem applies_of_mem_commands (h : m.Clean) (hr : raw ∈ s.commands m) :
    (Command.parse raw).Applies m.layers := by
  rcases List.mem_append.mp hr with hr | hr
  · exact h.base raw hr
  · obtain ⟨pose, _, hr⟩ := List.mem_flatMap.mp hr
    exact h.applies_of_mem_resolve hr

theorem exists_layer (h : m.Clean) (hv : (s.visibility m).contains id = true)
    (ho : s.overrides.contains id = false) : ∃ l ∈ m.layers, l.id = id := by
  rcases PlayerState.contains_visibility.mp hv with hset | ⟨raw, hr, _, hid⟩
  · rw [ho] at hset
    cases hset
  · exact (h.applies_of_mem_commands hr).exists_layer hid

theorem countP_eq_one (h : m.Clean) (hl : ∃ l ∈ m.layers, l.id = id) :
    m.layers.countP (·.id = id) = 1 := by
  have hmem : id ∈ m.layers.map (·.id) := List.mem_map.mpr hl
  rw [← List.count_eq_one_of_mem h.nodup hmem, List.count_eq_countP, List.countP_map]
  apply List.countP_congr
  intro l _
  simp

end Model.Clean

namespace Player

variable {σ Handle : Type} [Stage σ Handle]

/-- A model without errors and warnings keeps its promises whatever is done to its player.  The
visibility is made by the executed commands and then by hand.  An id that it holds, if not by hand, is the
id of exactly one layer, and each executed command takes effect, on a group that has a layer. -/
theorem visibility_sound_of_run {m : Model} {stage : σ} {operations : List Operation}
    {p : Player σ Handle} (hm : m.analyse.atLeast .warn = []) (hp : Run operate m stage operations p) :
    p.visibility = ((∅ : Visibility).applyAll m.layers (p.state.commands m)).insertAll
      p.state.overrides.entries ∧
    (∀ id, p.visibility.contains id = true → p.state.overrides.contains id = false →
      m.layers.countP (·.id = id) = 1) ∧
    (∀ raw ∈ p.state.commands m, (Command.parse raw).isNoop = false ∧
      ∃ l ∈ m.layers, l.group = (Command.parse raw).group) := by
  have clean : m.Clean := Model.atLeast_warn_eq_nil_iff_clean.mp hm
  have hmodel : p.model = m := hp.model_eq operate_model
  rw [visibility, hmodel]
  refine ⟨p.state.visibility_eq m, ?_, ?_⟩
  · intro id hv ho
    exact clean.countP_eq_one (clean.exists_layer hv ho)
  · intro raw hr
    have applies := clean.applies_of_mem_commands hr
    exact ⟨applies.not_noop, applies.group⟩

def swinging : Model where
  assets := { layers := [.conventional "Body" "Base", .conventional "Arm" "Up",
    .conventional "Arm" "Down"] }
  controller := {
    baseLayers := ["Body+Base"]
    defaultPoses := ["Raise"]
    poses := .ofList [("Lower", ["Raise", "Arm>Down"]), ("Raise", ["Lower", "Arm+Up"])] }

def swings : List Operation :=
  [.perform (.setLayer "Hat" true), .teardown, .perform (.setPose "Lower")]

def swung : Player Ledger Nat := swings.foldl Player.operate (.start swinging ({} : Ledger))

theorem visibility_sound_of_run_swinging :
    swinging.analyse.atLeast .warn = [] ∧ Run operate swinging ({} : Ledger) swings swung ∧
    swung.state.commands swinging = ["Body+Base", "Arm+Up", "Arm>Down"] ∧
    swinging.layers.countP (·.id = "Arm/Up") = 1 := by
  have clean : swinging.analyse.atLeast .warn = [] :=
    Model.atLeast_warn_eq_nil_iff_clean.mpr ⟨by decide, by decide, by decide, by decide, by decide⟩
  have run : Run operate swinging ({} : Ledger) swings swung :=
    .foldl_start operate swinging ({} : Ledger) swings
  have sound := visibility_sound_of_run clean run
  exact ⟨clean, run, by cbv, sound.2.1 "Arm/Up" (by cbv) (by cbv)⟩

end Player

end Portrait
