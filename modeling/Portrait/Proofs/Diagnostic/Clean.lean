import Mathlib.Data.List.Enum
import Portrait.Diagnostic.Finding
import Portrait.Visibility

/-! Models without errors and warnings. -/

namespace Portrait

structure Command.Applies (layers : List Layer) (c : Command) : Prop where
  not_noop : c.isNoop = false
  group : ∃ l ∈ layers, l.group = c.group
  layer : c.targetsLayer = true → ∃ l ∈ layers, l.id = c.layerId

instance (layers : List Layer) (c : Command) : Decidable (c.Applies layers) :=
  decidable_of_iff (c.isNoop = false ∧ (∃ l ∈ layers, l.group = c.group) ∧
      (c.targetsLayer = true → ∃ l ∈ layers, l.id = c.layerId))
    ⟨fun ⟨hn, hg, hl⟩ => ⟨hn, hg, hl⟩, fun h => ⟨h.not_noop, h.group, h.layer⟩⟩

namespace Finding

def Quiet (fs : List Finding) : Prop := ∀ f ∈ fs, f.level = .info

variable {fs gs : List Finding}

@[simp] theorem quiet_nil : Quiet [] := List.forall_mem_nil _

@[simp] theorem quiet_singleton {f : Finding} : Quiet [f] ↔ f.level = .info :=
  List.forall_mem_singleton

@[simp] theorem quiet_append : Quiet (fs ++ gs) ↔ Quiet fs ∧ Quiet gs := List.forall_mem_append

@[simp] theorem quiet_flatMap {α : Type} {xs : List α} {found : α → List Finding} :
    Quiet (xs.flatMap found) ↔ ∀ x ∈ xs, Quiet (found x) := by
  simp only [Quiet, List.mem_flatMap]
  exact ⟨fun h x hx f hf => h f ⟨x, hx, hf⟩, fun h f ⟨x, hx, hf⟩ => h x hx f hf⟩

@[simp] theorem quiet_ite {p : Prop} [Decidable p] :
    Quiet (if p then fs else gs) ↔ (p → Quiet fs) ∧ (¬ p → Quiet gs) := by
  split
  · rename_i hp
    simp [hp]
  · rename_i hp
    simp [hp]

@[simp] theorem quiet_cyclic (poses : List String) : Quiet (poses.map .cyclicPose) := by
  intro f hf
  obtain ⟨pose, _, rfl⟩ := List.mem_map.mp hf
  rfl

end Finding

namespace Model

open Finding

structure Clean (m : Model) : Prop where
  nodup : (m.layers.map (·.id)).Nodup
  conventional : ∀ l ∈ m.layers, l.hasConventionalId = true
  defaults : ∀ pose ∈ m.defaultPoses, m.hasPose pose = true
  base : ∀ raw ∈ m.baseLayers, (Command.parse raw).Applies m.layers
  literals : ∀ pose ∈ m.poseNames, ∀ raw ∈ m.poses.literals pose, (Command.parse raw).Applies m.layers

variable {m : Model}

theorem atLeast_warn_eq_nil_iff : m.analyse.atLeast .warn = [] ↔ Quiet m.findings := by
  have level_iff (s : Severity) : ¬ Severity.warn ≤ s ↔ s = .info := by
    cases s <;> decide
  simp [Diagnostics.atLeast, analyse, Finding.diagnostic, Quiet, List.filter_eq_nil_iff, level_iff]

theorem quiet_commandFindings_iff {site : Site} {raw : String} :
    Quiet (m.commandFindings site raw) ↔ (Command.parse raw).Applies m.layers := by
  simp only [commandFindings, quiet_ite, quiet_singleton, quiet_nil, Finding.level, reduceCtorEq]
  constructor
  · rintro ⟨hnoop, h⟩
    obtain ⟨hgroup, h⟩ := h hnoop
    have hlayer := (h hgroup).1
    exact ⟨by simpa using hnoop, by simpa using hgroup, fun ht => by simpa [ht] using hlayer⟩
  · intro h
    have hgroup : m.layers.any (·.group = (Command.parse raw).group) = true := by
      simpa using h.group
    have hlayer : (Command.parse raw).targetsLayer = true →
        m.layers.any (·.id = (Command.parse raw).layerId) = true := by
      simpa using h.layer
    cases ht : (Command.parse raw).targetsLayer <;> simp [h.not_noop, hgroup, hlayer, ht]

theorem nodup_ids_iff : (m.layers.map (·.id)).Nodup ↔
    ∀ i (hi : i < m.layers.length), i ≤ m.firstIndex m.layers[i].id := by
  rw [List.Nodup, List.pairwise_iff_getElem]
  simp only [List.length_map, List.getElem_map]
  constructor
  · intro h i hi
    apply Nat.le_of_not_lt
    intro hlt
    have hfirst : m.firstIndex m.layers[i].id < m.layers.length := Nat.lt_trans hlt hi
    exact h _ i hfirst hi hlt (of_decide_eq_true (List.findIdx_getElem (w := hfirst)))
  · intro h i j hi hj hij heq
    have := List.not_of_lt_findIdx (Nat.lt_of_lt_of_le hij (h j hj))
    simp [heq] at this

theorem quiet_layerFindings_iff : Quiet m.layerFindings ↔
    (m.layers.map (·.id)).Nodup ∧ ∀ l ∈ m.layers, l.hasConventionalId = true := by
  simp only [layerFindings, quiet_flatMap, quiet_append, quiet_ite, quiet_singleton, quiet_nil,
    Finding.level, reduceCtorEq, imp_false, Bool.not_eq_true, Bool.not_eq_false, Nat.not_lt]
  rw [List.forall_mem_zipIdx', nodup_ids_iff, List.forall_mem_iff_getElem]
  constructor
  · intro h
    exact ⟨fun i hi => by simpa using (h i hi).1, fun i hi => by simpa using (h i hi).2⟩
  · rintro ⟨hids, hconv⟩ i hi
    simp [hids i hi, hconv i hi]

theorem quiet_defaultFindings_iff :
    Quiet m.defaultFindings ↔ ∀ pose ∈ m.defaultPoses, m.hasPose pose = true := by
  simp only [defaultFindings, quiet_flatMap, quiet_ite, quiet_singleton, quiet_nil, Finding.level,
    reduceCtorEq]
  rw [List.forall_mem_zipIdx', List.forall_mem_iff_getElem]
  simp

theorem atLeast_warn_eq_nil_iff_clean : m.analyse.atLeast .warn = [] ↔ m.Clean := by
  rw [atLeast_warn_eq_nil_iff]
  simp only [findings, poseFindings, quiet_append, quiet_flatMap, quiet_cyclic,
    quiet_layerFindings_iff, quiet_defaultFindings_iff, quiet_commandFindings_iff]
  constructor
  · rintro ⟨⟨⟨⟨⟨hids, hconv⟩, hdef⟩, hbase⟩, hlit⟩, -⟩
    exact ⟨hids, hconv, hdef, hbase, hlit⟩
  · intro h
    exact ⟨⟨⟨⟨⟨h.nodup, h.conventional⟩, h.defaults⟩, h.base⟩, h.literals⟩, trivial⟩

end Model

end Portrait
