import Mathlib
import Portrait.Player.Event
import Portrait.Proofs.Player.Mounting
import Portrait.Proofs.Player.Run
import Portrait.Proofs.Visibility

/-! A ledger shows what the player's visibility says, in every state of every run. -/

namespace Portrait

namespace Player

def Synced (p : Player Ledger Nat) : Prop :=
  ∀ e ∈ p.handles, ∀ r, p.stage.records[e.2]? = some r → r.visible = p.visibility.isVisible e.1

structure Agrees (p : Player Ledger Nat) : Prop where
  mounted : Mounted p.model p.model.layers p.stage p.handles
  synced : p.Synced

variable {m : Model} {p : Player Ledger Nat} {es : List (String × Nat)}

theorem showAll_ledger (v : Visibility) (s : Ledger) (es : List (String × Nat)) :
    showAll v s es = (es.foldl (fun s e => s.setVisible e.2 (v.isVisible e.1)) s, es) := by
  induction es generalizing s with
  | nil => rfl
  | cons e es ih =>
    have hrest := ih (s.setVisible e.2 (v.isVisible e.1))
    exact congrArg (fun x : Ledger × List (String × Nat) => (x.1, e :: x.2)) hrest

theorem sync_handles (p : Player Ledger Nat) : p.sync.handles = p.handles := by
  rw [sync, showAll_ledger]

theorem sync_records (h : Mounted p.model p.model.layers p.stage p.handles) (i : Nat) :
    p.sync.stage.records[i]? = p.stage.records[i]?.map fun r =>
      if (r.sprite.layerId, i) ∈ p.handles then
        { r with visible := p.visibility.isVisible r.sprite.layerId } else r := by
  rw [sync, showAll_ledger]
  exact Ledger.foldl_setVisible_records p.visibility.isVisible p.handles p.stage
    (fun _ he _ hr => h.layerId_eq he hr) i

theorem agrees_sync (h : Mounted p.model p.model.layers p.stage p.handles) : p.sync.Agrees where
  mounted := by
    rw [sync_handles]
    apply h.of_records
    intro i
    refine ⟨_, sync_records h i, ?_⟩
    intro r
    split <;> exact ⟨rfl, rfl⟩
  synced := by
    intro e he r hr
    rw [sync_handles] at he
    rw [sync_records h] at hr
    obtain ⟨r', hr', rfl⟩ := Option.map_eq_some_iff.mp hr
    have hid := h.layerId_eq he hr'
    rw [hid, if_pos (by exact he)]
    rfl

namespace Agrees

theorem perm (h : p.Agrees) (hes : es.Perm p.handles) :
    Agrees { p with handles := es } where
  mounted := h.mounted.perm hes
  synced := fun e he => h.synced e (hes.mem_iff.mp he)

theorem perform (h : p.Agrees) (a : Action) : (p.perform a).Agrees := by
  cases hu : a.updates p.model with
  | true =>
    rw [perform_of_updates hu]
    exact agrees_sync h.mounted
  | false =>
    rw [perform_of_not_updates hu]
    exact h

end Agrees

theorem agrees_start (m : Model) {arrange : List (String × Nat) → List (String × Nat)}
    (harrange : ∀ es, (arrange es).Perm es) : (Player.start m ({} : Ledger) arrange).Agrees := by
  have hmounted := (Mounted.nil m).foldl_mount m.layers
  rw [List.nil_append] at hmounted
  exact agrees_sync (hmounted.perm (harrange _))

theorem Agrees.isVisible_iff (h : p.Agrees) (id : String) :
    p.stage.isVisible id = true ↔
      id ∈ p.model.layers.map (·.id) ∧ p.visibility.get? id = some true := by
  rw [Ledger.isVisible_iff, h.mounted.ids_eq, ← Visibility.isVisible_eq_true_iff]
  constructor
  · rintro ⟨i, r, hlast, hr, hshown⟩
    rw [← h.synced _ ((h.mounted.mem_handles id i).mpr hlast) r hr]
    exact ⟨hlast.mem, by simp_all [SpriteRecord.isShown]⟩
  · rintro ⟨hid, hv⟩
    obtain ⟨i, hlast⟩ := exists_lastAt hid
    have he := (h.mounted.mem_handles id i).mpr hlast
    obtain ⟨r, hr, _, hrel⟩ := h.mounted.mem_handles_iff.mp he
    have hvis : r.visible = true := (h.synced _ he r hr).trans hv
    exact ⟨i, r, hlast, hr, by simp [SpriteRecord.isShown, hvis, hrel]⟩

theorem Agrees.visibleCount_eq (h : p.Agrees) :
    p.visibleCount = p.stage.records.countP (·.isShown) := by
  rw [visibleCount, h.mounted.perm_live.countP_eq]
  apply Ledger.countP_live
  intro id i r he hr
  exact h.synced _ (h.mounted.perm_live.mem_iff.mpr he) r hr

/-- What the looks at all layers have written to a log. -/
def looks (log : List Event) : List (List (String × Event.Field)) :=
  (log.filter (·.message = "图层可见性已更新")).map Event.fields

theorem looks_append (log log' : List Event) : looks (log ++ log') = looks log ++ looks log' := by
  rw [looks, List.filter_append, List.map_append, looks, looks]

theorem looks_skipEvents (s : PlayerState) : looks (s.skipEvents m) = [] := by
  have hnone : ∀ e ∈ s.skipEvents m, ¬ decide (e.message = "图层可见性已更新") = true := by
    intro e he
    obtain ⟨c, -, rfl⟩ := List.mem_map.mp he
    simp [Event.message]
  rw [looks, List.filter_eq_nil_iff.mpr hnone, List.map_nil]

theorem looks_action_events (s : PlayerState) (a : Action) : looks (a.events m s) = [] := by
  cases a with
  | setPose pose =>
    simp only [Action.events]
    split
    · split <;> simp [looks, Event.message]
    · simp [looks, Event.message]
  | addPose pose =>
    simp only [Action.events]
    split <;> simp [looks, Event.message]
  | removePose pose =>
    simp only [Action.events]
    split <;> simp [looks, Event.message]
  | clearGroup group => simp [Action.events, looks, Event.message]
  | setLayer id visible => rfl
  | reset => rfl

def numbers (p : Player Ledger Nat) : List (String × Event.Field) :=
  [("active_poses", .count p.state.active.length), ("overrides", .count p.state.overrides.size),
    ("visible", .count (p.stage.records.countP (·.isShown)))]

theorem Agrees.looks_updateEvents (h : p.Agrees) : looks p.updateEvents = [p.numbers] := by
  rw [updateEvents, looks_append, looks_skipEvents, List.nil_append, h.visibleCount_eq]
  rfl

theorem Agrees.looks_events (h : p.Agrees) (a : Action) :
    looks (p.events a) = if a.updates p.model then [(p.perform a).numbers] else [] := by
  rw [events, looks_append, looks_action_events, List.nil_append]
  split
  · exact (h.perform a).looks_updateEvents
  · rfl

theorem Run.agrees {actions : List Action} (h : Run perform m ({} : Ledger) actions p) : p.Agrees := by
  induction h with
  | start harrange => exact agrees_start m harrange
  | move _ hes ih => exact (ih.perm hes).perform _

/-- In every state of every run the ledger shows a layer id if it is the id of a layer and visible.
There is one sprite a layer, in layer order; of those of one id the last one is alive and all others are
released.  Each look at all layers, the first one included, is reported once, with as many visible
layers as the ledger shows sprites, and what does not look at them reports none.  None of this depends
on the order in which the handles are visited. -/
theorem ledger_agrees_of_run {m : Model} {actions : List Action} {p : Player Ledger Nat}
    (h : Run perform m ({} : Ledger) actions p) :
    (∀ id, p.stage.isVisible id = true ↔
      id ∈ m.layers.map (·.id) ∧ p.visibility.get? id = some true) ∧
    p.stage.records.map (·.sprite) = m.layers.map m.sprite ∧
    (∀ id i, (∃ r, p.stage.records[i]? = some r ∧ r.sprite.layerId = id ∧ r.released = false) ↔
      LastAt (m.layers.map (·.id)) id i) ∧
    (∀ id ∈ m.layers.map (·.id), ∃! i : Nat, ∃ r, p.stage.records[i]? = some r ∧
      r.sprite.layerId = id ∧ r.released = false) ∧
    looks p.updateEvents = [p.numbers] ∧
    ∀ es a, es.Perm p.handles →
      looks (({ p with handles := es } : Player Ledger Nat).events a) =
        if a.updates m then [(({ p with handles := es } : Player Ledger Nat).perform a).numbers]
        else [] := by
  have hagrees := h.agrees
  have hmounted := hagrees.mounted
  have hmodel := h.model_eq perform_model
  have alive : ∀ id i, (∃ r, p.stage.records[i]? = some r ∧ r.sprite.layerId = id ∧
      r.released = false) ↔ LastAt (m.layers.map (·.id)) id i := by
    intro id i
    rw [← hmounted.mem_handles_iff, hmounted.mem_handles, hmodel]
  refine ⟨?_, ?_, alive, ?_, hagrees.looks_updateEvents, ?_⟩
  · rw [← hmodel]
    exact hagrees.isVisible_iff
  · rw [← hmodel]
    exact hmounted.sprites
  · intro id hid
    obtain ⟨i, hi⟩ := exists_lastAt hid
    exact ⟨i, (alive id i).mpr hi, fun j hj => ((alive id j).mp hj).eq hi⟩
  · intro es a hes
    rw [(hagrees.perm hes).looks_events, hmodel]

def doubled : Model where
  assets := { layers := [.conventional "Arm" "Up", .conventional "Arm" "Down",
    { id := "Arm/Up", group := "Leg", name := "Bent", order := 3 }] }
  controller := { poses := .ofList [("Raise", ["Arm>Up"])] }

def doubledRaised : Player Ledger Nat :=
  let p := Player.start doubled ({} : Ledger) List.reverse
  { p with handles := p.handles.reverse }.perform (.setPose "Raise")

theorem ledger_agrees_of_run_doubled :
    Run perform doubled ({} : Ledger) [.setPose "Raise"] doubledRaised ∧
    (doubledRaised.stage.isVisible "Arm/Up" = true ↔
      "Arm/Up" ∈ doubled.layers.map (·.id) ∧ doubledRaised.visibility.get? "Arm/Up" = some true) ∧
    LastAt (doubled.layers.map (·.id)) "Arm/Up" 2 ∧
    doubledRaised.stage.records.map (·.released) = [true, false, false] ∧
    doubledRaised.updateEvents = [.updated 1 0 1] ∧ doubledRaised.numbers =
      [("active_poses", .count 1), ("overrides", .count 0), ("visible", .count 1)] ∧
    looks (doubledRaised.events (.setLayer "Arm/Down" true)) =
      [[("active_poses", .count 1), ("overrides", .count 1), ("visible", .count 2)]] := by
  have run : Run perform doubled ({} : Ledger) [.setPose "Raise"] doubledRaised :=
    .move (.start fun es => es.reverse_perm) (List.reverse_perm _)
  obtain ⟨visible, -, alive, -, first, later⟩ := ledger_agrees_of_run run
  have log : doubledRaised.updateEvents = [.updated 1 0 1] := by cbv
  refine ⟨run, visible "Arm/Up", (alive "Arm/Up" 2).mp ?_, by cbv, log, ?_, ?_⟩
  · exact ⟨⟨doubled.sprite { id := "Arm/Up", group := "Leg", name := "Bent", order := 3 }, true, false⟩,
      by cbv⟩
  · rw [log] at first
    exact (List.singleton_inj.mp first).symm
  · rw [show doubledRaised = { doubledRaised with handles := doubledRaised.handles } from rfl,
      later _ (.setLayer "Arm/Down" true) (.refl _)]
    cbv

end Player

end Portrait
