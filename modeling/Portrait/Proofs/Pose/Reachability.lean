import Portrait.Pose.Table
import Portrait.Proofs.SortedMap

/-! Chains of references between the poses of a table. -/

namespace Portrait.PoseTable

/-- A chain of references from the first pose to the second.  All its poses are poses of the table,
and none of them is barred. -/
inductive Reaches (t : PoseTable) (barred : List String) (p : String) : String → Prop
  | refl : t.contains p = true → p ∉ barred → Reaches t barred p p
  | step : Reaches t barred p q → r ∈ t.references q → r ∉ barred → Reaches t barred p r

variable {t : PoseTable} {barred : List String} {p q r : String}

theorem mem_references : r ∈ t.references q ↔ r ∈ t.items q ∧ t.contains r = true := List.mem_filter

theorem mem_literals {c : String} : c ∈ t.literals q ↔ c ∈ t.items q ∧ t.contains c = false := by
  simp [literals]

theorem items_of_get? {items : List String} (h : t.get? p = some items) : t.items p = items := by
  rw [PoseTable.items, h, Option.getD_some]

theorem contains_of_get? {items : List String} (h : t.get? p = some items) : t.contains p = true :=
  SortedMap.contains_eq_true_iff.mpr ⟨items, h⟩

namespace Reaches

theorem contains_left (h : t.Reaches barred p q) : t.contains p = true := by
  induction h with
  | refl hp _ => exact hp
  | step _ _ _ ih => exact ih

theorem not_mem_left (h : t.Reaches barred p q) : p ∉ barred := by
  induction h with
  | refl _ hp => exact hp
  | step _ _ _ ih => exact ih

theorem contains_right (h : t.Reaches barred p q) : t.contains q = true := by
  cases h with
  | refl hp _ => exact hp
  | step _ hr _ => exact (mem_references.mp hr).2

theorem not_mem_right (h : t.Reaches barred p q) : q ∉ barred := by
  cases h with
  | refl _ hp => exact hp
  | step _ _ hr => exact hr

theorem mono {fewer : List String} (hsub : ∀ x ∈ fewer, x ∈ barred) (h : t.Reaches barred p q) :
    t.Reaches fewer p q := by
  induction h with
  | refl hp hb => exact .refl hp fun hf => hb (hsub _ hf)
  | step _ hr hb ih => exact .step ih hr fun hf => hb (hsub _ hf)

theorem trans (h : t.Reaches barred p q) (h' : t.Reaches barred q r) : t.Reaches barred p r := by
  induction h' with
  | refl _ _ => exact h
  | step _ hr hb ih => exact .step ih hr hb

theorem head (hp : t.contains p = true) (hb : p ∉ barred) (hq : q ∈ t.references p)
    (h : t.Reaches barred q r) : t.Reaches barred p r :=
  trans (.step (.refl hp hb) hq h.not_mem_left) h

end Reaches

end Portrait.PoseTable
