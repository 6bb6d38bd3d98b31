import Mathlib.Data.List.Basic
import Portrait.Player.Action
import Portrait.Proofs.SortedMap

/-! The groups that a pose takes hold of, and poses that have none in common. -/

namespace Portrait.PoseTable

def Apart (t : PoseTable) (poses : List String) : Prop :=
  ∀ a ∈ poses, ∀ b ∈ poses, a ≠ b → (t.affectedGroups a).Disjoint (t.affectedGroups b)

variable {t : PoseTable} {pose a b g : String} {poses poses' : List String}

theorem Apart.mono (h : t.Apart poses) (hsub : ∀ a ∈ poses', a ∈ poses) : t.Apart poses' :=
  fun a ha b hb => h a (hsub a ha) b (hsub b hb)

theorem mem_affectedGroups : g ∈ t.affectedGroups pose ↔ ∃ raw ∈ t.resolve pose,
    (Command.parse raw).isNoop = false ∧ (Command.parse raw).claimsGroup = true ∧
      (Command.parse raw).group = g := by
  simp [affectedGroups, mem_sortedNames, claims, and_assoc]

theorem conflict_eq_false_iff :
    t.conflict a b = false ↔ (t.affectedGroups a).Disjoint (t.affectedGroups b) := by
  simp [conflict, List.disjoint_left]

theorem apart_iff_all :
    t.Apart poses ↔ (poses.all fun a => poses.all fun b => a = b || !t.conflict a b) = true := by
  simp [Apart, conflict_eq_false_iff, or_iff_not_imp_left]

end Portrait.PoseTable
