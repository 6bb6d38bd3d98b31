import Mathlib
import Portrait.Proofs.Pose.Visits

/-! Which pose each command of an expansion comes from. -/

namespace Portrait.PoseTable

open scoped List

def contribution (sources : List (String × String)) (pose : String) : List String :=
  (sources.filter (·.1 = pose)).map (·.2)

theorem contribution_append (as bs : List (String × String)) (pose : String) :
    contribution (as ++ bs) pose = contribution as pose ++ contribution bs pose := by
  simp [contribution]

theorem contribution_cons_self (pose c : String) (sources : List (String × String)) :
    contribution ((pose, c) :: sources) pose = c :: contribution sources pose := by
  simp [contribution]

theorem contribution_cons_of_ne {pose q : String} (h : q ≠ pose) (c : String)
    (sources : List (String × String)) :
    contribution ((q, c) :: sources) pose = contribution sources pose := by
  simp [contribution, h]

/-- Sources for the commands of an expansion.  The pending literals come from the owner, and each
pose that was visited on the way gives its own literals. -/
structure Attributes (t : PoseTable) (owner : String) (V xs cs W : List String)
    (sources : List (String × String)) : Prop where
  commands : sources.map (·.2) = cs
  own : contribution sources owner = xs.filter (!t.contains ·)
  visited : ∀ q, q ∈ W → q ∉ V → contribution sources q = t.literals q
  others : ∀ q, q ≠ owner → (q ∈ V ∨ q ∉ W) → contribution sources q = []

variable {t : PoseTable} {V V' W xs cs ds : List String} {owner p q : String}
  {sources sources' : List (String × String)}

namespace Attributes

theorem literal (howner : owner ∈ V) (hc : t.contains p = false)
    (h : t.Attributes owner V xs cs W sources) :
    t.Attributes owner V (p :: xs) (p :: cs) W ((owner, p) :: sources) where
  commands := by rw [List.map_cons, h.commands]
  own := by rw [contribution_cons_self, h.own]; simp [hc]
  visited q hq hv := by
    have hne : owner ≠ q := fun heq => hv (heq ▸ howner)
    rw [contribution_cons_of_ne hne, h.visited q hq hv]
  others q hne hq := by rw [contribution_cons_of_ne (Ne.symm hne), h.others q hne hq]

theorem seen (hp : t.contains p = true) (h : t.Attributes owner V xs cs W sources) :
    t.Attributes owner V (p :: xs) cs W sources where
  commands := h.commands
  own := by rw [h.own]; simp [hp]
  visited := h.visited
  others := h.others

theorem pose (howner : owner ∈ V) (hq : t.contains q = true) (hv : q ∉ V)
    (hi : t.Expands (q :: V) (t.items q) cs V') (hr : t.Expands V' xs ds W)
    (h : t.Attributes q (q :: V) (t.items q) cs V' sources)
    (h' : t.Attributes owner V' xs ds W sources') :
    t.Attributes owner V (q :: xs) (cs ++ ds) W (sources ++ sources') where
  commands := by rw [List.map_append, h.commands, h'.commands]
  own := by
    have hne : owner ≠ q := fun heq => hv (heq ▸ howner)
    rw [contribution_append, h.others owner hne (.inl (List.mem_cons_of_mem _ howner)), h'.own]
    simp [hq]
  visited x hx hxv := by
    rw [contribution_append]
    have hxo : x ≠ owner := fun heq => hxv (heq ▸ howner)
    by_cases hxq : x = q
    · subst hxq
      rw [h.own, h'.others x hxo (.inl (hi.mem_of_mem List.mem_cons_self)), List.append_nil]
      rfl
    · have hxc : x ∉ q :: V := by simp [hxq, hxv]
      by_cases hxV : x ∈ V'
      · rw [h.visited x hxV hxc, h'.others x hxo (.inl hxV), List.append_nil]
      · rw [h.others x hxq (.inr hxV), h'.visited x hx hxV, List.nil_append]
  others x hxo hx := by
    rw [contribution_append]
    rcases hx with hx | hx
    · have hxq : x ≠ q := fun heq => hv (heq ▸ hx)
      have hxc : x ∈ q :: V := List.mem_cons_of_mem _ hx
      rw [h.others x hxq (.inl hxc), h'.others x hxo (.inl (hi.mem_of_mem hxc)), List.nil_append]
    · have hxV : x ∉ V' := fun hm => hx (hr.mem_of_mem hm)
      have hxq : x ≠ q := fun heq => hxV (heq ▸ hi.mem_of_mem List.mem_cons_self)
      rw [h.others x hxq (.inr hxV), h'.others x hxo (.inr hx), List.nil_append]

end Attributes

theorem Expands.attributes (h : t.Expands V xs cs W) (howner : owner ∈ V) :
    ∃ sources, t.Attributes owner V xs cs W sources := by
  induction h generalizing owner with
  | nil => exact ⟨[], rfl, rfl, fun _ hq hv => absurd hq hv, fun _ _ _ => rfl⟩
  | literal hc _ ih =>
    obtain ⟨sources, h⟩ := ih howner
    exact ⟨_, h.literal howner hc⟩
  | seen hq _ _ ih =>
    obtain ⟨sources, h⟩ := ih howner
    exact ⟨_, h.seen hq⟩
  | pose hq hv hi hr ihi ih =>
    obtain ⟨inner, h⟩ := ihi List.mem_cons_self
    obtain ⟨outer, h'⟩ := ih (hi.mem_of_mem (List.mem_cons_of_mem _ howner))
    exact ⟨_, h.pose howner hq hv hi hr h'⟩

theorem expandPose_of_not_mem (hp : t.contains p = true) (hv : p ∉ V) :
    t.expandPose V p = t.expand (p :: V) (t.items p) := by
  have h := Expands.pose hp hv (expands_expand t (p :: V) (t.items p)) .nil
  rw [expandPose, if_pos hp, expand_of_expands h, List.append_nil]

theorem expandPose_of_mem (hv : p ∈ V) : t.expandPose V p = ⟨[], V⟩ := by
  cases hp : t.contains p with
  | false => simp [expandPose, hp]
  | true => rw [expandPose, if_pos hp, expand_of_expands (.seen hp hv .nil)]

theorem expandPose_of_undefined (hp : t.contains p = false) : t.expandPose V p = ⟨[], V⟩ := by
  simp [expandPose, hp]

theorem expandPose_eq_nil (h : t.contains p = false ∨ p ∈ V) : (t.expandPose V p).commands = [] := by
  rcases h with h | h
  · rw [expandPose_of_undefined h]
  · rw [expandPose_of_mem h]

@[simp] theorem expandPoses_singleton (t : PoseTable) (V : List String) (p : String) :
    t.expandPoses V [p] = t.expandPose V p := by
  simp [expandPoses]

theorem reaches_iff (t : PoseTable) (V : List String) (p q : String) :
    t.Reaches V p q ↔ q ∈ (t.expandPose V p).visited ∧ q ∉ V := by
  have run := calls_expandPoses t V [p]
  rw [expandPoses_singleton] at run
  rw [run.mem_visited_iff]
  constructor
  · exact fun hr => ⟨.inr ⟨p, List.mem_singleton_self p, hr⟩, hr.not_mem_right⟩
  · rintro ⟨hq | ⟨_, hp, hr⟩, hv⟩
    · exact absurd hq hv
    · exact List.mem_singleton.mp hp ▸ hr

theorem exists_reached (t : PoseTable) (V : List String) (p : String) :
    ∃ qs : List String, qs.Nodup ∧ (∀ q, q ∈ qs ↔ t.Reaches V p q) ∧
      (t.expandPose V p).commands ~ qs.flatMap t.literals := by
  have run := calls_expandPoses t V [p]
  rw [expandPoses_singleton] at run
  obtain ⟨qs, hadds, hperm⟩ := run.perm_flatMap
  exact ⟨qs, hadds.nodup, fun q => by rw [hadds.mem_iff, reaches_iff], hperm⟩

theorem mem_resolve {c : String} : c ∈ t.resolve p ↔ ∃ q, t.Reaches [] p q ∧ c ∈ t.literals q := by
  obtain ⟨qs, _, hqs, hperm⟩ := exists_reached t [] p
  rw [resolve, hperm.mem_iff, List.mem_flatMap]
  simp only [hqs]

theorem exists_sources (t : PoseTable) (V : List String) (p : String) :
    ∃ sources : List (String × String), sources.map (·.2) = (t.expandPose V p).commands ∧
      (∀ q, t.Reaches V p q → contribution sources q = t.literals q) ∧
      ∀ q, ¬ t.Reaches V p q → contribution sources q = [] := by
  by_cases hskip : t.contains p = false ∨ p ∈ V
  · refine ⟨[], by rw [expandPose_eq_nil hskip]; rfl, ?_, fun _ _ => rfl⟩
    intro q hr
    rcases hskip with hp | hv
    · simp [hr.contains_left] at hp
    · exact absurd hv hr.not_mem_left
  · obtain ⟨hp, hv⟩ := not_or.mp hskip
    rw [Bool.not_eq_false] at hp
    simp only [reaches_iff, expandPose_of_not_mem hp hv]
    obtain ⟨sources, h⟩ := (expands_expand t (p :: V) (t.items p)).attributes List.mem_cons_self
    have hpW := (expands_expand t (p :: V) (t.items p)).mem_of_mem List.mem_cons_self
    refine ⟨sources, h.commands, ?_, ?_⟩
    · rintro q ⟨hq, hqv⟩
      by_cases hqp : q = p
      · rw [hqp, h.own]
        rfl
      · exact h.visited q hq (by simp [hqp, hqv])
    · intro q hq
      have hqp : q ≠ p := by
        rintro rfl
        exact hq ⟨hpW, hv⟩
      apply h.others q hqp
      by_cases hqv : q ∈ V
      · exact .inl (List.mem_cons_of_mem _ hqv)
      · exact .inr fun hqW => hq ⟨hqW, hqv⟩

theorem contains_eq_false_of_mem_commands {c : String} (hc : c ∈ (t.expandPose V p).commands) :
    t.contains c = false := by
  obtain ⟨qs, _, _, hperm⟩ := exists_reached t V p
  obtain ⟨q, _, hcq⟩ := List.mem_flatMap.mp (hperm.mem_iff.mp hc)
  exact (mem_literals.mp hcq).2

/-- Nothing is lost and nothing doubled.  An expansion holds the literals of every pose that is reached
around the visited ones, each pose's once and in their order, and it holds nothing else.  So it is empty
for a visited pose and for a name that is no pose. -/
theorem expandPose_perm_literals (t : PoseTable) (visited : List String) (p : String) :
    (∃ qs : List String, qs.Nodup ∧ (∀ q, q ∈ qs ↔ t.Reaches visited p q) ∧
      (t.expandPose visited p).commands ~ qs.flatMap t.literals) ∧
    (∃ sources : List (String × String), sources.map (·.2) = (t.expandPose visited p).commands ∧
      (∀ q, t.Reaches visited p q → contribution sources q = t.literals q) ∧
      ∀ q, ¬ t.Reaches visited p q → contribution sources q = []) ∧
    (∀ c ∈ (t.expandPose visited p).commands, t.contains c = false) ∧
    (t.contains p = false ∨ p ∈ visited → (t.expandPose visited p).commands = []) :=
  ⟨exists_reached t visited p, exists_sources t visited p,
    fun _ => contains_eq_false_of_mem_commands, expandPose_eq_nil⟩

/-- A cycle with a shared pose: each pose gives its literals at its first occurrence. -/
example : (PoseTable.expandPose (SortedMap.ofList
    [("A", ["a+1", "B", "C"]), ("B", ["C", "b+1", "A", "b+2"]), ("C", ["c-"])]) [] "A").commands =
      ["a+1", "c-", "b+1", "b+2"] := by
  cbv

end Portrait.PoseTable
