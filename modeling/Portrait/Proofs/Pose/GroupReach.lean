import Mathlib
import Portrait.Proofs.Player.Conflict
import Portrait.Proofs.Pose.Sources

/-! The groups of a pose are the groups of all poses that it leads to. -/

namespace Portrait

def Command.TakesHold (c : Command) (group : String) : Prop :=
  c.group = group ∧ group ≠ "" ∧ (c.op = .reveal ∨ c.op = .select ∨ c.op = .hide ∧ c.name = "")

theorem Command.takesHold_iff {c : Command} {g : String} :
    c.TakesHold g ↔ c.isNoop = false ∧ c.claimsGroup = true ∧ c.group = g := by
  have hnoop : c.isNoop = false ↔ c.group ≠ "" := by simp [isNoop]
  have hclaims : c.claimsGroup = true ↔
      c.op = .reveal ∨ c.op = .select ∨ c.op = .hide ∧ c.name = "" := by
    cases hop : c.op <;> simp [claimsGroup, hop]
  rw [TakesHold, hnoop, hclaims]
  constructor
  · rintro ⟨rfl, hne, hop⟩
    exact ⟨hne, hop, rfl⟩
  · rintro ⟨hne, hop, rfl⟩
    exact ⟨rfl, hne, hop⟩

namespace PoseTable

variable {t : PoseTable} {p q g : String}

theorem mem_affectedGroups_iff_reaches : g ∈ t.affectedGroups p ↔
    ∃ q, t.Reaches [] p q ∧ ∃ raw ∈ t.literals q, (Command.parse raw).TakesHold g := by
  simp only [mem_affectedGroups, ← Command.takesHold_iff, mem_resolve]
  constructor
  · rintro ⟨raw, ⟨q, hq, hraw⟩, hg⟩
    exact ⟨q, hq, raw, hraw, hg⟩
  · rintro ⟨q, hq, raw, hraw, hg⟩
    exact ⟨raw, ⟨q, hq, hraw⟩, hg⟩

theorem affectedGroups_subset_of_reaches (h : t.Reaches [] p q) :
    t.affectedGroups q ⊆ t.affectedGroups p := by
  intro g hg
  obtain ⟨r, hr, hraw⟩ := mem_affectedGroups_iff_reaches.mp hg
  exact mem_affectedGroups_iff_reaches.mpr ⟨r, h.trans hr, hraw⟩

theorem affectedGroups_congr (h : ∀ g, g ∈ t.affectedGroups p ↔ g ∈ t.affectedGroups q) :
    t.affectedGroups p = t.affectedGroups q := by
  apply sortedNames_congr
  simpa only [affectedGroups, mem_sortedNames] using h

theorem affectedGroups_eq_of_cycle (h : t.Reaches [] p q) (h' : t.Reaches [] q p) :
    t.affectedGroups p = t.affectedGroups q :=
  affectedGroups_congr fun _ =>
    ⟨fun hg => affectedGroups_subset_of_reaches h' hg, fun hg => affectedGroups_subset_of_reaches h hg⟩

def duet : PoseTable := .ofList [("Lead", ["Arm>Up", "Follow"]), ("Follow", ["Leg+Bent", "Lead"])]

theorem duet_reaches : duet.Reaches [] "Lead" "Follow" ∧ duet.Reaches [] "Follow" "Lead" := by
  have lead : duet.contains "Lead" = true := by decide
  have follow : duet.contains "Follow" = true := by decide
  exact ⟨.step (.refl lead (by decide)) (by decide) (by decide),
    .step (.refl follow (by decide)) (by decide) (by decide)⟩

theorem duet_resolve : duet.resolve "Lead" ≠ duet.resolve "Follow" := by
  have lead : duet.resolve "Lead" = ["Arm>Up", "Leg+Bent"] := by cbv
  have follow : duet.resolve "Follow" = ["Leg+Bent", "Arm>Up"] := by cbv
  rw [lead, follow]
  decide

end PoseTable

theorem PlayerState.disjoint_of_mem_setPose {m : Model} {s : PlayerState} {p a : String}
    (hp : m.hasPose p = true) (ha : a ∈ (s.perform m (.setPose p)).active) (hne : a ≠ p) :
    (m.poses.affectedGroups a).Disjoint (m.poses.affectedGroups p) := by
  rw [perform, if_pos hp] at ha
  exact (mem_evictConflicts.mp ((mem_activate.mp ha).resolve_right hne)).2

theorem PlayerState.not_reaches_of_mem_setPose {m : Model} {s : PlayerState} {p a : String}
    (ha : a ∈ (s.perform m (.setPose p)).active) (hne : a ≠ p)
    (hgroups : m.poses.affectedGroups a ≠ []) : ¬ m.poses.Reaches [] p a := by
  intro h
  obtain ⟨g, hg⟩ := List.exists_mem_of_ne_nil _ hgroups
  exact disjoint_of_mem_setPose h.contains_left ha hne hg (PoseTable.affectedGroups_subset_of_reaches h hg)

/-- A pose takes hold of the groups that some pose it leads to takes hold of by one of its literals.  So
it holds the groups of all these poses, and poses on one cycle hold the same groups, also if they stand
for different lists of commands.  When a pose is set, it leads to no other active pose, but for poses
without groups. -/
theorem PoseTable.affectedGroups_follow_references {σ Handle : Type} [Stage σ Handle] :
    (∀ (t : PoseTable) (p g : String), g ∈ t.affectedGroups p ↔
      ∃ q, t.Reaches [] p q ∧ ∃ raw ∈ t.literals q, (Command.parse raw).TakesHold g) ∧
    (∀ (t : PoseTable) (p q : String), t.Reaches [] p q → t.affectedGroups q ⊆ t.affectedGroups p) ∧
    (∀ (t : PoseTable) (p q : String), t.Reaches [] p q → t.Reaches [] q p →
      t.affectedGroups p = t.affectedGroups q) ∧
    (∃ (t : PoseTable) (p q : String), t.Reaches [] p q ∧ t.Reaches [] q p ∧
      t.resolve p ≠ t.resolve q) ∧
    ∀ (player : Player σ Handle) (p a : String),
      a ∈ (player.perform (.setPose p)).state.active → a ≠ p →
        player.model.poses.affectedGroups a ≠ [] → ¬ player.model.poses.Reaches [] p a := by
  refine ⟨fun t p g => mem_affectedGroups_iff_reaches, fun t p q => affectedGroups_subset_of_reaches,
    fun t p q => affectedGroups_eq_of_cycle,
    ⟨duet, "Lead", "Follow", duet_reaches.1, duet_reaches.2, duet_resolve⟩, fun player p a ha hne => ?_⟩
  rw [Player.perform_state] at ha
  exact PlayerState.not_reaches_of_mem_setPose ha hne

end Portrait
