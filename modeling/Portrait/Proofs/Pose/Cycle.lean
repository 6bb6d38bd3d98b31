import Mathlib.Logic.Relation
import Portrait.Pose.Cycle
import Portrait.Proofs.Pose.Sources

/-! The search for cycles meets what chains of references lead to, and nothing else. -/

namespace Portrait.PoseTable

def Refers (t : PoseTable) (q r : String) : Prop :=
  t.contains q = true ∧ r ∈ t.items q ∧ t.contains r = true

variable {t : PoseTable} {target p q r : String} {poses : List String}

theorem contains_of_mem_items (h : r ∈ t.items q) : t.contains q = true := by
  cases hq : t.get? q with
  | none => simp [items, hq] at h
  | some items => exact contains_of_get? hq

theorem refers_iff : t.Refers q r ↔ r ∈ t.references q := by
  rw [Refers, mem_references]
  exact ⟨fun h => h.2, fun h => ⟨contains_of_mem_items h.1, h⟩⟩

theorem reaches_nil_iff :
    t.Reaches [] p q ↔ t.contains p = true ∧ Relation.ReflTransGen t.Refers p q := by
  constructor
  · intro h
    refine ⟨h.contains_left, ?_⟩
    induction h with
    | refl => exact .refl
    | step _ hr _ ih => exact ih.tail (refers_iff.mpr hr)
  · rintro ⟨hp, h⟩
    induction h with
    | refl => exact .refl hp List.not_mem_nil
    | tail _ hr ih => exact .step ih (refers_iff.mp hr) List.not_mem_nil

theorem transGen_refers_self_iff :
    Relation.TransGen t.Refers p p ↔ ∃ q, t.Reaches [] p q ∧ p ∈ t.items q := by
  simp only [Relation.TransGen.tail'_iff, reaches_nil_iff]
  constructor
  · rintro ⟨q, h, hq, hp, ht⟩
    exact ⟨q, ⟨ht, h⟩, hp⟩
  · rintro ⟨q, ⟨ht, h⟩, hp⟩
    exact ⟨q, h, contains_of_mem_items hp, hp, ht⟩

namespace Search

variable {s : Search}

theorem mem_met_meet : q ∈ (s.meet target p).met ↔ q ∈ s.met ∨ q = p := by
  simp only [meet]
  split
  · rename_i hp
    exact ⟨.inl, fun h => h.elim id (· ▸ hp)⟩
  · simp [or_comm]

theorem mem_stack_meet : q ∈ (s.meet target p).stack ↔ q ∈ s.stack ∨ q = p ∧ q ∉ s.met := by
  simp only [meet]
  split
  · rename_i hp
    refine ⟨.inl, fun h => h.elim id ?_⟩
    rintro ⟨rfl, hnew⟩
    exact absurd hp hnew
  · rename_i hp
    rw [List.mem_cons, or_comm]
    apply or_congr_right
    exact ⟨fun h => ⟨h, h ▸ hp⟩, And.left⟩

theorem found_meet : (s.meet target p).found = true ↔ s.found = true ∨ p = target := by
  simp only [meet]
  split <;> simp

theorem mem_met_foldl : q ∈ (poses.foldl (meet target) s).met ↔ q ∈ s.met ∨ q ∈ poses := by
  induction poses generalizing s with
  | nil => simp
  | cons p poses ih => rw [List.foldl_cons, ih, mem_met_meet, List.mem_cons, or_assoc]

theorem mem_stack_foldl :
    q ∈ (poses.foldl (meet target) s).stack ↔ q ∈ s.stack ∨ q ∈ poses ∧ q ∉ s.met := by
  induction poses generalizing s with
  | nil => simp
  | cons p poses ih =>
    rw [List.foldl_cons, ih, mem_stack_meet, mem_met_meet, List.mem_cons]
    by_cases hq : q = p <;> simp [hq]

theorem found_foldl :
    (poses.foldl (meet target) s).found = true ↔ s.found = true ∨ target ∈ poses := by
  induction poses generalizing s with
  | nil => simp
  | cons p poses ih => rw [List.foldl_cons, ih, found_meet, List.mem_cons, or_assoc, eq_comm (a := p)]

/-- Chains of references lead to what the search holds, and what it is done with leads to nothing
that it has not met. -/
structure Follows (t : PoseTable) (target : String) (s : Search) : Prop where
  stack : ∀ q ∈ s.stack, Relation.ReflTransGen t.Refers target q
  met : ∀ q ∈ s.met, Relation.TransGen t.Refers target q
  found : s.found = true ↔ target ∈ s.met
  closed : ∀ q r, q = target ∨ q ∈ s.met → q ∉ s.stack → t.Refers q r → r ∈ s.met

namespace Follows

theorem start (t : PoseTable) (target : String) : (Search.start target).Follows t target where
  stack q hq := by
    obtain rfl := List.mem_singleton.mp hq
    exact .refl
  met := List.forall_mem_nil _
  found := by simp [Search.start]
  closed q r hq hs _ := by
    rcases hq with rfl | hq
    · exact absurd (List.mem_singleton_self q) hs
    · cases hq

theorem step (h : s.Follows t target) : (s.step t target).Follows t target := by
  obtain ⟨stack, met, found⟩ := s
  cases stack with
  | nil => exact h
  | cons pose stack =>
    have chain : ∀ q ∈ t.references pose, Relation.TransGen t.Refers target q := fun q hq =>
      .tail' (h.stack pose List.mem_cons_self) (refers_iff.mpr hq)
    refine ⟨?stack, ?met, ?found, ?closed⟩
    case stack =>
      intro q hq
      rcases mem_stack_foldl.mp hq with hq | ⟨hq, -⟩
      · exact h.stack q (List.mem_cons_of_mem _ hq)
      · exact (chain q hq).to_reflTransGen
    case met =>
      intro q hq
      rcases mem_met_foldl.mp hq with hq | hq
      · exact h.met q hq
      · exact chain q hq
    case found =>
      simp only [Search.step, found_foldl, mem_met_foldl]
      exact or_congr_left h.found
    case closed =>
      intro q r hq hs hr
      simp only [Search.step, mem_met_foldl, mem_stack_foldl, not_or, not_and, not_not] at hq hs ⊢
      -- The pose on top has its references met now; any other pose was done with before.
      by_cases hpose : q = pose
      · exact .inr (hpose ▸ refers_iff.mp hr)
      · refine .inl (h.closed q r ?_ (by simp [hpose, hs.1]) hr)
        rcases hq with hq | hq | hq
        · exact .inl hq
        · exact .inr hq
        · exact .inr (hs.2 hq)

theorem run (h : s.Follows t target) : (s.run t target).Follows t target := by
  fun_induction Search.run t target s with
  | case1 s hs => exact h
  | case2 s hs _ ih => exact ih h.step

theorem mem_met_iff (h : s.Follows t target) (hs : s.stack = []) :
    q ∈ s.met ↔ Relation.TransGen t.Refers target q := by
  refine ⟨h.met q, fun hq => ?_⟩
  induction hq with
  | single hr => exact h.closed _ _ (.inl rfl) (by simp [hs]) hr
  | tail _ hr ih => exact h.closed _ _ (.inr ih) (by simp [hs]) hr

end Follows

theorem run_stack (t : PoseTable) (target : String) (s : Search) : (s.run t target).stack = [] := by
  fun_induction Search.run t target s with
  | case1 s hs => exact hs
  | case2 s hs _ ih => exact ih

theorem exists_iterate_eq_run (t : PoseTable) (target : String) (s : Search) :
    ∃ n ≤ s.pending t, (step t target)^[n] s = s.run t target := by
  fun_induction Search.run t target s with
  | case1 s hs => exact ⟨0, Nat.zero_le _, rfl⟩
  | case2 s hs hlt ih =>
    obtain ⟨n, hn, hrun⟩ := ih
    exact ⟨n + 1, Nat.lt_of_le_of_lt hn hlt, by rw [Function.iterate_succ_apply, hrun]⟩

theorem pending_start (t : PoseTable) (p : String) : (Search.start p).pending t = t.size + 1 := by
  simp [pending, Search.start, unvisited, SortedMap.keys, SortedMap.size]

end Search

theorem onCycle_iff : t.onCycle p = true ↔ Relation.TransGen t.Refers p p := by
  have h := (Search.Follows.start t p).run
  rw [onCycle, h.found, h.mem_met_iff (Search.run_stack t p _)]

theorem mem_cyclicPoses : p ∈ t.cyclicPoses ↔ Relation.TransGen t.Refers p p := by
  rw [cyclicPoses, List.mem_filter, onCycle_iff, ← SortedMap.contains_iff_mem_keys]
  refine and_iff_right_of_imp fun h => ?_
  obtain ⟨q, hr, -⟩ := transGen_refers_self_iff.mp h
  exact hr.contains_left

/-- The cyclic poses are those that a chain of references leads back to, or, which is the same, those
that their own expansion comes upon again among the items of a pose that it expands.  The search from
each pose ends after a step for each pose at most, and the poses may be searched from in any order. -/
theorem cyclicPoses_exact (t : PoseTable) :
    (∀ p, p ∈ t.cyclicPoses ↔ Relation.TransGen t.Refers p p) ∧
    (∀ p, p ∈ t.cyclicPoses ↔ ∃ q ∈ (t.expandPose [] p).visited, p ∈ t.items q) ∧
    (∀ p, ∃ n ≤ t.size + 1, (Search.step t p)^[n] (.start p) = (Search.start p).run t p ∧
      ((Search.start p).run t p).stack = []) ∧
    ∀ names : List String, names.Perm t.keys → sortedNames (names.filter t.onCycle) = t.cyclicPoses := by
  refine ⟨fun p => mem_cyclicPoses, fun p => ?_, fun p => ?_, fun names hnames => ?_⟩
  · simp only [mem_cyclicPoses, transGen_refers_self_iff, reaches_iff, List.not_mem_nil,
      not_false_eq_true, and_true]
  · obtain ⟨n, hn, hrun⟩ := Search.exists_iterate_eq_run t p (.start p)
    exact ⟨n, Search.pending_start t p ▸ hn, hrun, Search.run_stack t p _⟩
  · apply sortedNames_eq
    · exact t.pairwise_keys.filter _
    · exact fun p => (hnames.filter _).mem_iff

/-- A pose that leads to a cycle is not on it. -/
example : PoseTable.cyclicPoses (SortedMap.ofList
    [("A", ["B", "a+1"]), ("B", ["A", "none"]), ("C", ["A", "C+1"]), ("D", ["D"])]) =
      ["A", "B", "D"] := by
  cbv

end Portrait.PoseTable
