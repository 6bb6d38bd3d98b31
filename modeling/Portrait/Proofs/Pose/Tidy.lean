import Mathlib.Data.List.Basic
import Portrait.Proofs.Pose.Groups
import Portrait.Proofs.Pose.Sources
import Portrait.Proofs.Visibility

/-! Pose tables without the items that mean nothing.  What a pose stands for keeps its effect. -/

namespace Portrait

def effectiveCommands (commands : List String) : List String :=
  commands.filter fun raw => !(Command.parse raw).isNoop

theorem effectiveCommands_append (before after : List String) :
    effectiveCommands (before ++ after) = effectiveCommands before ++ effectiveCommands after :=
  List.filter_append ..

theorem Visibility.applyAll_effectiveCommands (layers : List Layer) (v : Visibility)
    (commands : List String) :
    v.applyAll layers (effectiveCommands commands) = v.applyAll layers commands := by
  simp only [applyAll_eq_insertAll, writes, effectiveCommands, List.filter_filter, Bool.and_self]

namespace PoseTable

def means (t : PoseTable) (item : String) : Bool :=
  t.contains item || !(Command.parse item).isNoop

def tidy (t : PoseTable) : PoseTable := t.mapValues (·.filter t.means)

variable {t : PoseTable} {V W xs cs : List String} {a b p : String}

@[simp] theorem contains_tidy : t.tidy.contains p = t.contains p := SortedMap.contains_mapValues ..

theorem items_tidy : t.tidy.items p = (t.items p).filter t.means := by
  rw [items, items, tidy, SortedMap.get?_mapValues]
  cases t.get? p <;> rfl

theorem Expands.tidy (h : t.Expands V xs cs W) :
    t.tidy.Expands V (xs.filter t.means) (effectiveCommands cs) W := by
  induction h with
  | nil => exact .nil
  | @literal c _ _ _ _ hc _ ih =>
    cases hn : (Command.parse c).isNoop with
    | true => simpa [means, effectiveCommands, hc, hn] using ih
    | false => simpa [means, effectiveCommands, hc, hn] using Expands.literal (by simpa using hc) ih
  | seen hq hv _ ih =>
    rw [List.filter_cons_of_pos (by simp [means, hq])]
    exact .seen (by simpa using hq) hv ih
  | pose hq hv _ _ ihi ih =>
    rw [List.filter_cons_of_pos (by simp [means, hq]), effectiveCommands_append]
    rw [← items_tidy] at ihi
    exact .pose (by simpa using hq) hv ihi ih

theorem resolve_of_undefined (hp : t.contains p = false) : t.resolve p = [] :=
  expandPose_eq_nil (.inl hp)

theorem resolve_tidy (t : PoseTable) (p : String) :
    t.tidy.resolve p = effectiveCommands (t.resolve p) := by
  cases hp : t.contains p with
  | false =>
    rw [resolve_of_undefined hp, resolve_of_undefined (contains_tidy.trans hp)]
    rfl
  | true =>
    have h := (expands_expand t [] [p]).tidy
    rw [List.filter_cons_of_pos (by simp [means, hp]), List.filter_nil] at h
    simp [resolve, expandPose, hp, expand_of_expands h]

theorem claims_tidy : t.tidy.claims p = t.claims p := by
  rw [claims, claims, resolve_tidy, effectiveCommands, List.filter_map, List.filter_map,
    List.filter_filter]
  congr 2
  funext raw
  cases hn : (Command.parse raw).isNoop <;> simp [hn]

@[simp] theorem affectedGroups_tidy : t.tidy.affectedGroups p = t.affectedGroups p := by
  rw [affectedGroups, claims_tidy, affectedGroups]

@[simp] theorem conflict_tidy : t.tidy.conflict a b = t.conflict a b := by
  simp only [conflict, affectedGroups_tidy]

end PoseTable

end Portrait
