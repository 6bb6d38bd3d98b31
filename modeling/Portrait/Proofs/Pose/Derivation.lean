import Mathlib.Data.List.Perm.Basic
import Portrait.Pose.Expansion
import Portrait.Proofs.Pose.Reachability

/-! Expansion as a recursion over poses with one set of visited poses threaded through it.  Each
derivation is a finite run of that recursion; what an expansion visits and what it yields is proved
by induction on derivations. -/

namespace Portrait.PoseTable

open scoped List

/-- `Expands t visited pending commands visited'`: from the visited poses the pending items yield the
commands and leave the visited poses `visited'`. -/
inductive Expands (t : PoseTable) :
    List String → List String → List String → List String → Prop
  | nil : Expands t V [] [] V
  | literal : t.contains c = false → Expands t V rest cs W → Expands t V (c :: rest) (c :: cs) W
  | seen : t.contains q = true → q ∈ V → Expands t V rest cs W → Expands t V (q :: rest) cs W
  | pose : t.contains q = true → q ∉ V → Expands t (q :: V) (t.items q) cs V' →
      Expands t V' rest ds W → Expands t V (q :: rest) (cs ++ ds) W

variable {t : PoseTable} {V V' W names xs ys cs ds : List String} {p q r : String}

namespace Expands

theorem append (h : t.Expands V xs cs V') (h' : t.Expands V' ys ds W) :
    t.Expands V (xs ++ ys) (cs ++ ds) W := by
  induction h with
  | nil => exact h'
  | literal hc _ ih => exact .literal hc (ih h')
  | seen hq hv _ ih => exact .seen hq hv (ih h')
  | pose hq hv h _ _ ih =>
    rw [List.append_assoc]
    exact .pose hq hv h (ih h')

theorem of_append (h : t.Expands V (xs ++ ys) cs W) :
    ∃ as bs U, t.Expands V xs as U ∧ t.Expands U ys bs W ∧ cs = as ++ bs := by
  induction xs generalizing V cs with
  | nil => exact ⟨[], cs, V, .nil, h, rfl⟩
  | cons x xs ih =>
    cases h with
    | literal hc h =>
      obtain ⟨as, bs, U, ha, hb, rfl⟩ := ih h
      exact ⟨x :: as, bs, U, .literal hc ha, hb, rfl⟩
    | seen hq hv h =>
      obtain ⟨as, bs, U, ha, hb, rfl⟩ := ih h
      exact ⟨as, bs, U, .seen hq hv ha, hb, rfl⟩
    | pose hq hv hi h =>
      obtain ⟨as, bs, U, ha, hb, rfl⟩ := ih h
      exact ⟨_, bs, U, .pose hq hv hi ha, hb, (List.append_assoc ..).symm⟩

theorem unique (h : t.Expands V xs cs W) (h' : t.Expands V xs ds V') : cs = ds ∧ W = V' := by
  induction h generalizing ds V' with
  | nil => cases h'; exact ⟨rfl, rfl⟩
  | literal hc _ ih =>
    cases h' with
    | literal _ h' => obtain ⟨rfl, rfl⟩ := ih h'; exact ⟨rfl, rfl⟩
    | seen hq _ _ => simp [hc] at hq
    | pose hq _ _ _ => simp [hc] at hq
  | seen hq hv _ ih =>
    cases h' with
    | literal hc _ => simp [hc] at hq
    | seen _ _ h' => exact ih h'
    | pose _ hn _ _ => exact absurd hv hn
  | pose hq hn _ _ ihi ih =>
    cases h' with
    | literal hc _ => simp [hc] at hq
    | seen _ hv _ => exact absurd hv hn
    | pose _ _ hi h' =>
      obtain ⟨rfl, rfl⟩ := ihi hi
      obtain ⟨rfl, rfl⟩ := ih h'
      exact ⟨rfl, rfl⟩

theorem mem_of_mem (h : t.Expands V xs cs W) (hq : q ∈ V) : q ∈ W := by
  induction h with
  | nil => exact hq
  | literal _ _ ih => exact ih hq
  | seen _ _ _ ih => exact ih hq
  | pose _ _ _ _ ihi ih => exact ih (ihi (List.mem_cons_of_mem _ hq))

theorem mem_of_pending (h : t.Expands V xs cs W) (hp : p ∈ xs) (ht : t.contains p = true) :
    p ∈ W := by
  induction h with
  | nil => cases hp
  | literal hc _ ih =>
    rcases List.mem_cons.mp hp with rfl | hp
    · simp [hc] at ht
    · exact ih hp
  | seen _ hv h ih =>
    rcases List.mem_cons.mp hp with rfl | hp
    · exact h.mem_of_mem hv
    · exact ih hp
  | pose _ _ hi h _ ih =>
    rcases List.mem_cons.mp hp with rfl | hp
    · exact h.mem_of_mem (hi.mem_of_mem List.mem_cons_self)
    · exact ih hp

theorem mem_of_references (h : t.Expands V xs cs W) (hq : q ∈ W) (hv : q ∉ V)
    (hr : r ∈ t.references q) : r ∈ W := by
  induction h with
  | nil => exact absurd hq hv
  | literal _ _ ih => exact ih hq hv
  | seen _ _ _ ih => exact ih hq hv
  | @pose x V _ V' _ _ _ _ _ hi h ihi ih =>
    by_cases hq' : q ∈ V'
    · by_cases hx : q = x
      · subst hx
        obtain ⟨hr, hc⟩ := mem_references.mp hr
        exact h.mem_of_mem (hi.mem_of_pending hr hc)
      · exact h.mem_of_mem (ihi hq' (by simp [hx, hv]))
    · exact ih hq hq'

theorem mem_of_reaches (h : t.Expands V xs cs W) (hp : p ∈ xs) (hr : t.Reaches V p q) : q ∈ W := by
  induction hr with
  | refl ht _ => exact h.mem_of_pending hp ht
  | step hr hq _ ih => exact h.mem_of_references ih hr.not_mem_right hq

theorem reaches_of_mem (h : t.Expands V xs cs W) (hq : q ∈ W) :
    q ∈ V ∨ ∃ p ∈ xs, t.Reaches V p q := by
  induction h with
  | nil => exact .inl hq
  | literal _ _ ih => exact (ih hq).imp_right fun ⟨p, hp, hr⟩ => ⟨p, List.mem_cons_of_mem _ hp, hr⟩
  | seen _ _ _ ih => exact (ih hq).imp_right fun ⟨p, hp, hr⟩ => ⟨p, List.mem_cons_of_mem _ hp, hr⟩
  | @pose x V _ V' _ _ _ hx hv hi _ ihi ih =>
    have below : ∀ y ∈ V, y ∈ V' := fun y hy => hi.mem_of_mem (List.mem_cons_of_mem _ hy)
    rcases ih hq with hq | ⟨p, hp, hr⟩
    · rcases ihi hq with hq | ⟨p, hp, hr⟩
      · rcases List.mem_cons.mp hq with rfl | hq
        · exact .inr ⟨q, List.mem_cons_self, .refl hx hv⟩
        · exact .inl hq
      · have hr' : t.Reaches V p q := hr.mono fun _ => List.mem_cons_of_mem _
        exact .inr ⟨x, List.mem_cons_self,
          .head hx hv (mem_references.mpr ⟨hp, hr.contains_left⟩) hr'⟩
    · exact .inr ⟨p, List.mem_cons_of_mem _ hp, hr.mono below⟩

theorem mem_visited_iff (h : t.Expands V xs cs W) :
    q ∈ W ↔ q ∈ V ∨ ∃ p ∈ xs, t.Reaches V p q := by
  constructor
  · exact h.reaches_of_mem
  · rintro (hq | ⟨p, hp, hr⟩)
    · exact h.mem_of_mem hq
    · exact h.mem_of_reaches hp hr

end Expands

structure Adds (t : PoseTable) (V xs cs W new : List String) : Prop where
  visited : W = new ++ V
  nodup : new.Nodup
  fresh : ∀ q ∈ new, q ∉ V
  poses : ∀ q ∈ new, t.contains q = true
  perm : cs.Perm (xs.filter (!t.contains ·) ++ new.flatMap t.literals)

namespace Adds

theorem literal {new : List String} (hc : t.contains p = false) (h : t.Adds V xs cs W new) :
    t.Adds V (p :: xs) (p :: cs) W new where
  visited := h.visited
  nodup := h.nodup
  fresh := h.fresh
  poses := h.poses
  perm := by simpa [hc] using h.perm

theorem seen {new : List String} (hq : t.contains p = true) (h : t.Adds V xs cs W new) :
    t.Adds V (p :: xs) cs W new where
  visited := h.visited
  nodup := h.nodup
  fresh := h.fresh
  poses := h.poses
  perm := by simpa [hq] using h.perm

theorem pose {old new : List String} (hq : t.contains q = true) (hv : q ∉ V)
    (h : t.Adds (q :: V) (t.items q) cs V' old) (h' : t.Adds V' xs ds W new) :
    t.Adds V (q :: xs) (cs ++ ds) W (new ++ old ++ [q]) where
  visited := by rw [h'.visited, h.visited]; simp
  nodup := by
    have hold : ∀ x ∈ old ++ [q], x ∈ V' := by
      intro x hx
      rw [h.visited]
      rcases List.mem_append.mp hx with hx | hx
      · exact List.mem_append_left _ hx
      · exact List.mem_append_right _ (List.mem_singleton.mp hx ▸ List.mem_cons_self)
    have hq : q ∉ old := fun hx => h.fresh q hx List.mem_cons_self
    rw [List.append_assoc, List.nodup_append]
    refine ⟨h'.nodup, ?_, ?_⟩
    · rw [List.nodup_append]
      refine ⟨h.nodup, by simp, ?_⟩
      intro x hx y hy hxy
      rw [List.mem_singleton] at hy
      exact hq (hy ▸ hxy ▸ hx)
    · intro x hx y hy hxy
      exact h'.fresh x hx (hxy ▸ hold y hy)
  fresh := by
    intro x hx
    simp only [List.mem_append, List.mem_singleton] at hx
    rcases hx with (hx | hx) | rfl
    · intro hV
      apply h'.fresh x hx
      rw [h.visited]
      exact List.mem_append_right _ (List.mem_cons_of_mem _ hV)
    · exact fun hV => h.fresh x hx (List.mem_cons_of_mem _ hV)
    · exact hv
  poses := by
    intro x hx
    simp only [List.mem_append, List.mem_singleton] at hx
    rcases hx with (hx | hx) | rfl
    · exact h'.poses x hx
    · exact h.poses x hx
    · exact hq
  perm := by
    have hrest : (q :: xs).filter (!t.contains ·) = xs.filter (!t.contains ·) := by simp [hq]
    rw [hrest]
    calc cs ++ ds
      _ ~ (t.literals q ++ old.flatMap t.literals) ++
          (xs.filter (!t.contains ·) ++ new.flatMap t.literals) := h.perm.append h'.perm
      _ ~ (xs.filter (!t.contains ·) ++ new.flatMap t.literals) ++
          (t.literals q ++ old.flatMap t.literals) := List.perm_append_comm
      _ ~ (xs.filter (!t.contains ·) ++ new.flatMap t.literals) ++
          (old.flatMap t.literals ++ t.literals q) := List.perm_append_comm.append_left _
      _ = xs.filter (!t.contains ·) ++ (new ++ old ++ [q]).flatMap t.literals := by simp

end Adds

theorem Expands.adds (h : t.Expands V xs cs W) : ∃ new, t.Adds V xs cs W new := by
  induction h with
  | nil => exact ⟨[], rfl, .nil, by simp, by simp, by simp⟩
  | literal hc _ ih =>
    obtain ⟨new, h⟩ := ih
    exact ⟨new, h.literal hc⟩
  | seen hq _ _ ih =>
    obtain ⟨new, h⟩ := ih
    exact ⟨new, h.seen hq⟩
  | pose hq hv _ _ ihi ih =>
    obtain ⟨old, hi⟩ := ihi
    obtain ⟨new, h⟩ := ih
    exact ⟨_, hi.pose hq hv h⟩

theorem expands_expand (t : PoseTable) (V xs : List String) :
    t.Expands V xs (t.expand V xs).commands (t.expand V xs).visited := by
  fun_induction expand t V xs with
  | case1 V => exact .nil
  | case2 V item pending h ih => exact .literal (SortedMap.contains_eq_false_iff.mpr h) ih
  | case3 V item pending items h hv ih => exact .seen (contains_of_get? h) hv ih
  | case4 V item pending items h hv _ ih =>
    rw [← items_of_get? h] at ih ⊢
    obtain ⟨as, bs, U, ha, hb, hab⟩ := ih.of_append
    rw [hab]
    exact .pose (contains_of_get? h) hv ha hb

theorem expand_of_expands (h : t.Expands V xs cs W) : t.expand V xs = ⟨cs, W⟩ := by
  obtain ⟨hc, hW⟩ := (expands_expand t V xs).unique h
  rw [← hc, ← hW]

end Portrait.PoseTable
