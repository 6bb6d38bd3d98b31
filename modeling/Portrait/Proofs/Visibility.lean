import Portrait.Diagnostic.Finding
import Portrait.Player.State
import Portrait.Proofs.SortedMap

/-! Visible ids, and the ids that commands bring into a visibility map. -/

namespace Portrait

theorem Command.mem_keys_effects {layers : List Layer} {c : Command} {id : String} :
    id ∈ (c.effects layers).map (·.1) ↔
      if c.targetsLayer then id = c.layerId else ∃ l ∈ layers, l.group = c.group ∧ l.id = id := by
  cases hop : c.op with
  | reveal => simp [effects, targetsLayer, hop]
  | hide =>
    cases hn : c.name.isEmpty <;>
      simp [effects, targetsLayer, isGroupClear, hop, hn, and_assoc]
  | select => simp [effects, targetsLayer, hop, and_assoc]

namespace Visibility

variable {layers : List Layer} {id : String}

theorem isVisible_eq_true_iff {v : Visibility} : v.isVisible id = true ↔ v.get? id = some true := by
  rw [isVisible]
  cases v.get? id <;> simp

@[simp] theorem applyAll_nil (v : Visibility) : v.applyAll layers [] = v := rfl

theorem applyAll_cons (v : Visibility) (raw : String) (commands : List String) :
    v.applyAll layers (raw :: commands) =
      (v.apply layers (Command.parse raw)).applyAll layers commands := rfl

theorem applyAll_append (v : Visibility) (before after : List String) :
    v.applyAll layers (before ++ after) = (v.applyAll layers before).applyAll layers after :=
  List.foldl_append

def writes (layers : List Layer) (commands : List String) : List (String × Bool) :=
  (commands.filter fun raw => !(Command.parse raw).isNoop).flatMap fun raw =>
    (Command.parse raw).effects layers

theorem mem_keys_writes {commands : List String} : id ∈ (writes layers commands).map (·.1) ↔
    ∃ raw ∈ commands, (Command.parse raw).isNoop = false ∧
      id ∈ ((Command.parse raw).effects layers).map (·.1) := by
  simp [writes, List.map_flatMap, and_assoc]

theorem applyAll_eq_insertAll (v : Visibility) (commands : List String) :
    v.applyAll layers commands = v.insertAll (writes layers commands) := by
  induction commands generalizing v with
  | nil => rfl
  | cons raw commands ih =>
    rw [applyAll_cons, ih, apply]
    cases hc : (Command.parse raw).isNoop with
    | true => simp [writes, hc]
    | false => simp [writes, hc, SortedMap.insertAll, List.foldl_append]

theorem contains_applyAll (v : Visibility) (commands : List String) :
    (v.applyAll layers commands).contains id = true ↔
      (∃ raw ∈ commands, (Command.parse raw).isNoop = false ∧
        id ∈ ((Command.parse raw).effects layers).map (·.1)) ∨ v.contains id = true := by
  rw [applyAll_eq_insertAll, SortedMap.contains_insertAll, mem_keys_writes]

end Visibility

namespace PlayerState

def commands (m : Model) (s : PlayerState) : List String :=
  m.baseLayers ++ s.active.flatMap m.poses.resolve

theorem foldl_applyAll (m : Model) (v : Visibility) (poses : List String) :
    poses.foldl (fun v pose => v.applyAll m.layers (m.poses.resolve pose)) v =
      v.applyAll m.layers (poses.flatMap m.poses.resolve) := by
  induction poses generalizing v with
  | nil => rfl
  | cons pose poses ih => rw [List.foldl_cons, ih, List.flatMap_cons, Visibility.applyAll_append]

theorem visibility_eq (m : Model) (s : PlayerState) :
    s.visibility m =
      ((∅ : Visibility).applyAll m.layers (s.commands m)).insertAll s.overrides.entries := by
  rw [commands, Visibility.applyAll_append, ← foldl_applyAll]
  rfl

theorem contains_visibility {m : Model} {s : PlayerState} {id : String} :
    (s.visibility m).contains id = true ↔ s.overrides.contains id = true ∨
      ∃ raw ∈ s.commands m, (Command.parse raw).isNoop = false ∧
        id ∈ ((Command.parse raw).effects m.layers).map (·.1) := by
  rw [visibility_eq, SortedMap.contains_insertAll, Visibility.contains_applyAll,
    SortedMap.contains_iff_mem_keys (m := s.overrides)]
  simp [SortedMap.keys]

end PlayerState

end Portrait
