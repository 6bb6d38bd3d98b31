import Mathlib
import Portrait.Proofs.Json.Printer
import Portrait.Proofs.Player.Records
import Portrait.Proofs.Player.DrawOrder
import Portrait.Proofs.Text.ByteOrder
import Portrait.Tool.Inspect

/-! The views of a player after some actions show the same layers. -/

namespace Portrait

namespace Visibility

variable {v : Visibility} {id : String}

theorem mem_visibleIds : id ∈ v.visibleIds ↔ v.get? id = some true := by
  rw [SortedMap.get?, SortedMap.lookup_eq_some_iff v.nodup_keys]
  simp [visibleIds]

theorem pairwise_visibleIds (v : Visibility) : v.visibleIds.Pairwise (· < ·) :=
  List.pairwise_map.mpr (v.sorted.filter _)

end Visibility

namespace Inspect

open Json Player

variable {m : Model} {actions : List Action} {p : Player Ledger Nat}

theorem render_play (h : Run perform m ({} : Ledger) actions p) (view : View) :
    render (play m actions) view = render p view := by
  have hplay : Run perform m ({} : Ledger) actions (play m actions) :=
    .foldl_start perform m ({} : Ledger) actions
  have hvisibility : (play m actions).visibility = p.visibility := by
    rw [visibility, visibility, hplay.state_eq, h.state_eq, hplay.model_eq perform_model,
      h.model_eq perform_model]
  have hrecords : (play m actions).stage.records = p.stage.records :=
    hplay.of_perform.records_eq h.of_perform rfl rfl hvisibility
  cases view with
  | visibleIds => rw [render, render, hvisibility]
  | json => rw [render, render, hvisibility]
  | drawOrder => rw [render, render, Ledger.drawn, Ledger.drawn, hrecords]

theorem mem_drawOrder (h : p.Presents) {id : String} :
    id ∈ render p .drawOrder ↔ id ∈ render p .visibleIds ∧ id ∈ p.model.layers.map (·.id) := by
  rw [render, render, h.mounted.mem_drawn, h.toAgrees.isVisible_iff, Visibility.mem_visibleIds, and_comm]

/-- The views of a run agree, whatever the order of the handles, and each is printed line by line.  One
is JSON text of the map of what is visible.  One is the ids that this map sends to `true`, in the order
of their bytes.  And one is those of them that are ids of layers, each once, ordered by the last layer of
each id: by its level first, then by its place. -/
theorem views_agree_of_run (h : Run perform m ({} : Ledger) actions p) :
    (∀ view, (resolve m actions view).stdout = String.join ((render p view).map (· ++ "\n"))) ∧
    (∃ value, (resolve m actions .json).stdout = String.ofList value.text ++ "\n" ∧
      MapForm BooleanForm value p.visibility) ∧
    (∀ id, id ∈ render p .visibleIds ↔ p.visibility.get? id = some true) ∧
    (render p .visibleIds).Pairwise (fun a b => Text.utf8 a < Text.utf8 b) ∧
    (∀ id, id ∈ render p .drawOrder ↔ id ∈ render p .visibleIds ∧ id ∈ m.layers.map (·.id)) ∧
    (render p .drawOrder).Nodup ∧ (render p .drawOrder).Pairwise (DrawnBefore m.layers) := by
  have hp := h.presents
  have hmodel := h.model_eq perform_model
  have stdout (view : View) :
      (resolve m actions view).stdout = String.join ((render p view).map (· ++ "\n")) := by
    rw [← render_play h view, resolve, unlines]
  refine ⟨stdout, ?json, fun id => Visibility.mem_visibleIds, ?sorted, ?drawn, ?nodup, ?order⟩
  case json =>
    obtain ⟨value, htext, hform⟩ := map_printed_lines boolean_prints p.visibility
    refine ⟨value, ?_, hform⟩
    rw [stdout, render, ← htext, List.map_singleton, String.join_cons, String.join_nil,
      String.append_empty]
  case sorted => exact p.visibility.pairwise_visibleIds.imp Text.utf8_lt_iff.mpr
  case drawn => exact fun id => hmodel ▸ mem_drawOrder hp
  case nodup => exact hp.mounted.nodup_drawn
  case order => exact hmodel ▸ hp.mounted.pairwise_drawn

def crowd : Model where
  assets := { layers := [{ id := "Arm/Up", group := "Arm", name := "Up", order := -2 },
    { id := "Leg/Bent", group := "Leg", name := "Bent", order := 1 },
    { id := "Arm/Up", group := "Arm", name := "Up", order := 1 },
    { id := "Face/Smile", group := "Face", name := "Smile", order := -1 }] }
  controller := { baseLayers := ["Face+Smile", "Leg>Bent"] }

def crowdActions : List Action := [.setLayer "Hat/Red" true, .setLayer "Arm/Up" true]

def crowded : Player Ledger Nat :=
  crowdActions.foldl perform (Player.start crowd ({} : Ledger) List.reverse)

theorem views_agree_of_run_crowd :
    Run perform crowd ({} : Ledger) crowdActions crowded ∧
    render crowded .visibleIds = ["Arm/Up", "Face/Smile", "Hat/Red", "Leg/Bent"] ∧
    render crowded .drawOrder = ["Face/Smile", "Leg/Bent", "Arm/Up"] ∧
    (resolve crowd crowdActions .visibleIds).stdout = "Arm/Up\nFace/Smile\nHat/Red\nLeg/Bent\n" ∧
    (resolve crowd crowdActions .drawOrder).stdout = "Face/Smile\nLeg/Bent\nArm/Up\n" ∧
    (∃ value, MapForm BooleanForm value crowded.visibility ∧ String.ofList value.text ++ "\n" =
      "\x7b\n  \"Arm/Up\": true,\n  \"Face/Smile\": true,\n  \"Hat/Red\": true,\n" ++
        "  \"Leg/Bent\": true\n\x7d\n") ∧
    DrawnBefore crowd.layers "Leg/Bent" "Arm/Up" := by
  have run : Run perform crowd ({} : Ledger) crowdActions crowded :=
    .foldl (.start fun es => es.reverse_perm) crowdActions
  obtain ⟨stdout, json, -, -, -, -, order⟩ := views_agree_of_run run
  have visible : render crowded .visibleIds = ["Arm/Up", "Face/Smile", "Hat/Red", "Leg/Bent"] := by cbv
  have drawn : render crowded .drawOrder = ["Face/Smile", "Leg/Bent", "Arm/Up"] := by cbv
  refine ⟨run, visible, drawn, ?_, ?_, ?_, ?_⟩
  · rw [stdout, visible]
    rfl
  · rw [stdout, drawn]
    rfl
  · obtain ⟨value, hvalue, hform⟩ := json
    refine ⟨value, hform, ?_⟩
    rw [← hvalue]
    cbv
  · rw [drawn] at order
    exact (List.pairwise_cons.mp (List.pairwise_cons.mp order).2).1 _ (List.mem_singleton_self _)

end Inspect

end Portrait
