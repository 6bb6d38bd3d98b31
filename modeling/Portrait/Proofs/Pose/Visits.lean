import Mathlib.Data.List.Nodup
import Portrait.Proofs.Pose.Derivation

/-! Expanding several poses one after the other with one set of visited poses: which poses are
visited, and that each of them is expanded once. -/

namespace Portrait.PoseTable

open scoped List

def expandPoses (t : PoseTable) (visited : List String) : List String → Expansion
  | [] => ⟨[], visited⟩
  | name :: names =>
    let e := t.expandPose visited name
    let rest := expandPoses t e.visited names
    ⟨e.commands ++ rest.commands, rest.visited⟩

inductive Calls (t : PoseTable) : List String → List String → List String → List String → Prop
  | nil : Calls t V [] [] V
  | undefined : t.contains p = false → Calls t V names cs W → Calls t V (p :: names) cs W
  | pose : t.contains p = true → Expands t V [p] cs U → Calls t U names ds W →
      Calls t V (p :: names) (cs ++ ds) W

variable {t : PoseTable} {V W U names cs new : List String} {p q : String}

theorem Calls.expands (h : t.Calls V names cs W) : t.Expands V (names.filter t.contains) cs W := by
  induction h with
  | nil => exact .nil
  | undefined hp _ ih => simpa [hp] using ih
  | pose hp h _ ih =>
    rw [List.filter_cons_of_pos hp]
    exact h.append ih

theorem calls_expandPoses (t : PoseTable) (V names : List String) :
    t.Calls V names (t.expandPoses V names).commands (t.expandPoses V names).visited := by
  induction names generalizing V with
  | nil => exact .nil
  | cons p names ih =>
    cases hp : t.contains p with
    | false => simpa [expandPoses, expandPose, hp] using Calls.undefined hp (ih V)
    | true =>
      have h : t.Expands V [p] (t.expandPose V p).commands (t.expandPose V p).visited := by
        simpa [expandPose, hp] using expands_expand t V [p]
      exact .pose hp h (ih _)

theorem calls_iff : t.Calls V names cs W ↔ t.expandPoses V names = ⟨cs, W⟩ := by
  constructor
  · intro h
    obtain ⟨hc, hW⟩ := (calls_expandPoses t V names).expands.unique h.expands
    rw [← hc, ← hW]
  · intro h
    have := calls_expandPoses t V names
    rwa [h] at this

theorem Calls.mem_visited_iff (h : t.Calls V names cs W) :
    q ∈ W ↔ q ∈ V ∨ ∃ p ∈ names, t.Reaches V p q := by
  rw [h.expands.mem_visited_iff]
  apply or_congr_right
  constructor
  · rintro ⟨p, hp, hr⟩
    exact ⟨p, (List.mem_filter.mp hp).1, hr⟩
  · rintro ⟨p, hp, hr⟩
    exact ⟨p, List.mem_filter.mpr ⟨hp, hr.contains_left⟩, hr⟩

theorem Calls.perm_flatMap (h : t.Calls V names cs W) :
    ∃ new, t.Adds V (names.filter t.contains) cs W new ∧ cs ~ new.flatMap t.literals := by
  obtain ⟨new, hnew⟩ := h.expands.adds
  have hnone : (names.filter t.contains).filter (!t.contains ·) = [] := by
    rw [List.filter_filter, List.filter_eq_nil_iff]
    simp
  exact ⟨new, hnew, by simpa [hnone] using hnew.perm⟩

theorem Adds.length_le (h : t.Adds V names cs W new) : new.length ≤ t.unvisited V := by
  apply h.nodup.length_le_of_subset
  intro q hq
  apply List.mem_filter.mpr
  exact ⟨SortedMap.contains_iff_mem_keys.mp (h.poses q hq), by simpa using h.fresh q hq⟩

theorem Adds.mem_iff (h : t.Adds V names cs W new) : q ∈ new ↔ q ∈ W ∧ q ∉ V := by
  rw [h.visited, List.mem_append]
  constructor
  · exact fun hq => ⟨.inl hq, h.fresh q hq⟩
  · rintro ⟨hq | hq, hv⟩
    · exact hq
    · exact absurd hq hv

/-- A run of calls that share the visited poses is finite and has one result.  Each pose expanded
stands in front of those visited before it, so none is expanded twice or was visited before; together
they yield their literals once, and they are the poses reached from the names around those visited at
the start.  In another order the names lead to the same visited poses and, up to order, to the same
commands. -/
theorem expandPoses_visits_once (t : PoseTable) (visited names : List String) :
    (∀ cs W, t.Calls visited names cs W ↔ t.expandPoses visited names = ⟨cs, W⟩) ∧
    (∃ expanded, (t.expandPoses visited names).visited = expanded ++ visited ∧ expanded.Nodup ∧
      (∀ q ∈ expanded, q ∉ visited) ∧ expanded.length ≤ t.unvisited visited ∧
      (t.expandPoses visited names).commands ~ expanded.flatMap t.literals) ∧
    (∀ q, q ∈ (t.expandPoses visited names).visited ↔
      q ∈ visited ∨ ∃ p ∈ names, t.Reaches visited p q) ∧
    ∀ names', names' ~ names →
      (∀ q, q ∈ (t.expandPoses visited names').visited ↔
        q ∈ (t.expandPoses visited names).visited) ∧
      (t.expandPoses visited names').commands ~ (t.expandPoses visited names).commands := by
  have run := calls_expandPoses t visited
  obtain ⟨expanded, hadds, hperm⟩ := (run names).perm_flatMap
  refine ⟨fun cs W => calls_iff, ?_, fun q => (run names).mem_visited_iff, ?_⟩
  · exact ⟨expanded, hadds.visited, hadds.nodup, hadds.fresh, hadds.length_le, hperm⟩
  · intro names' hnames
    obtain ⟨expanded', hadds', hperm'⟩ := (run names').perm_flatMap
    have same : ∀ q, q ∈ (t.expandPoses visited names').visited ↔
        q ∈ (t.expandPoses visited names).visited := by
      intro q
      rw [(run names').mem_visited_iff, (run names).mem_visited_iff]
      simp only [hnames.mem_iff]
    refine ⟨same, hperm'.trans (.trans ?_ hperm.symm)⟩
    apply List.Perm.flatMap_right
    rw [List.perm_ext_iff_of_nodup hadds'.nodup hadds.nodup]
    intro q
    rw [hadds'.mem_iff, hadds.mem_iff, same]

end Portrait.PoseTable
