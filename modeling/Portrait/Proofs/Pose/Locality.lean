import Portrait.Proofs.Pose.Cycle

/-! What a pose stands for depends on the poses that it leads to, and on nothing else in the table. -/

namespace Portrait.PoseTable

/-- The other table has the entries of all poses that the pose leads to, and it has no pose that is named
like one of their literals. -/
structure Matches (t t' : PoseTable) (p : String) : Prop where
  entries : ∀ q, t.Reaches [] p q → t'.get? q = t.get? q
  literals : ∀ q, t.Reaches [] p q → ∀ c ∈ t.literals q, t'.contains c = false

def withPose (t : PoseTable) (pose : String) (items : List String) : PoseTable := t.insert pose items

def withoutPose (t : PoseTable) (pose : String) : PoseTable := t.filter (· ≠ pose)

variable {t t' : PoseTable} {V W xs cs : List String} {p q r x : String}

namespace Matches

theorem items (h : t.Matches t' p) (hp : t.contains p = true) : t'.items p = t.items p := by
  rw [PoseTable.items, h.entries p (.refl hp List.not_mem_nil), PoseTable.items]

theorem contains (h : t.Matches t' p) (hp : t.contains p = true) : t'.contains p = true := by
  rw [SortedMap.contains, h.entries p (.refl hp List.not_mem_nil)]
  exact hp

theorem of_reaches (h : t.Matches t' p) (hq : t.Reaches [] p q) : t.Matches t' q where
  entries r hr := h.entries r (hq.trans hr)
  literals r hr := h.literals r (hq.trans hr)

theorem of_item (h : t.Matches t' p) (hr : r ∈ t.items p) (ht : t.contains r = true) : t.Matches t' r :=
  h.of_reaches (.step (.refl (contains_of_mem_items hr) List.not_mem_nil) (mem_references.mpr ⟨hr, ht⟩)
    List.not_mem_nil)

theorem of_literal (h : t.Matches t' p) (hr : r ∈ t.items p) (ht : t.contains r = false) :
    t'.contains r = false :=
  h.literals p (.refl (contains_of_mem_items hr) List.not_mem_nil) r (mem_literals.mpr ⟨hr, ht⟩)

end Matches

/-- Both tables take the same steps.  What they visited is the same, and each of them looks up the pending
items alike. -/
theorem Expands.of_matches (h : t.Expands V xs cs W)
    (hposes : ∀ x ∈ xs, t.contains x = true → t.Matches t' x)
    (hliterals : ∀ x ∈ xs, t.contains x = false → t'.contains x = false) : t'.Expands V xs cs W := by
  induction h with
  | nil => exact .nil
  | literal hc _ ih =>
    rw [List.forall_mem_cons] at hposes hliterals
    exact .literal (hliterals.1 hc) (ih hposes.2 hliterals.2)
  | seen hq hv _ ih =>
    rw [List.forall_mem_cons] at hposes hliterals
    exact .seen ((hposes.1 hq).contains hq) hv (ih hposes.2 hliterals.2)
  | pose hq hv _ _ ihi ih =>
    rw [List.forall_mem_cons] at hposes hliterals
    have hmatch := hposes.1 hq
    have inner := ihi (fun _ => hmatch.of_item) fun _ => hmatch.of_literal
    rw [← hmatch.items hq] at inner
    exact .pose (hmatch.contains hq) hv inner (ih hposes.2 hliterals.2)

theorem Matches.expandPose_eq (h : t.Matches t' p) (hp : t.contains p = true) (V : List String) :
    t'.expandPose V p = t.expandPose V p := by
  rw [expandPose, expandPose, if_pos hp, if_pos (h.contains hp)]
  apply expand_of_expands
  apply (expands_expand t V [p]).of_matches
  · exact List.forall_mem_singleton.mpr fun _ => h
  · exact List.forall_mem_singleton.mpr fun hundef => by simp [hp] at hundef

theorem Matches.resolve_eq (h : t.Matches t' p) (hp : t.contains p = true) : t'.resolve p = t.resolve p := by
  rw [resolve, h.expandPose_eq hp, resolve]

theorem Matches.affectedGroups_eq (h : t.Matches t' p) (hp : t.contains p = true) :
    t'.affectedGroups p = t.affectedGroups p := by
  rw [affectedGroups, claims, h.resolve_eq hp, affectedGroups, claims]

theorem matches_withPose (hx : ¬ t.Reaches [] p x) (hlit : ∀ q, t.Reaches [] p q → x ∉ t.literals q)
    (items : List String) : t.Matches (t.withPose x items) p where
  entries q hq := by
    rw [withPose, SortedMap.get?_insert, if_neg]
    rintro rfl
    exact hx hq
  literals q hq c hc := by
    rw [← Bool.not_eq_true, withPose, SortedMap.contains_insert, (mem_literals.mp hc).2]
    rintro (rfl | hmem)
    · exact hlit q hq hc
    · cases hmem

theorem matches_withoutPose (hx : ¬ t.Reaches [] p x) : t.Matches (t.withoutPose x) p where
  entries q hq := by
    rw [withoutPose, SortedMap.get?_filter, if_pos]
    rw [decide_eq_true_eq]
    rintro rfl
    exact hx hq
  literals q hq c hc := by
    have hnone := SortedMap.contains_eq_false_iff.mp (mem_literals.mp hc).2
    rw [SortedMap.contains_eq_false_iff, withoutPose, SortedMap.get?_filter, hnone, ite_self]

/-- A pose means the same in every table that has the entries of the poses it leads to and takes none of
their literals for a pose: its expansion around any visited poses, its commands and its groups.  So a pose
that it does not lead to may be added or changed, if it is not named like one of these literals, and it
may always be removed. -/
theorem expansion_is_local (hp : t.contains p = true) :
    (∀ t', t.Matches t' p → (∀ V, t'.expandPose V p = t.expandPose V p) ∧
      t'.resolve p = t.resolve p ∧ t'.affectedGroups p = t.affectedGroups p) ∧
    ∀ x, ¬ t.Reaches [] p x →
      ((∀ q, t.Reaches [] p q → x ∉ t.literals q) → ∀ items,
        (t.withPose x items).resolve p = t.resolve p ∧
        (t.withPose x items).affectedGroups p = t.affectedGroups p) ∧
      (t.withoutPose x).resolve p = t.resolve p ∧
      (t.withoutPose x).affectedGroups p = t.affectedGroups p := by
  refine ⟨fun t' h => ?same, fun x hx => ⟨fun hlit items => ?inserted, ?erased⟩⟩
  case same => exact ⟨h.expandPose_eq hp, h.resolve_eq hp, h.affectedGroups_eq hp⟩
  case inserted =>
    have h := matches_withPose hx hlit items
    exact ⟨h.resolve_eq hp, h.affectedGroups_eq hp⟩
  case erased =>
    have h := matches_withoutPose hx
    exact ⟨h.resolve_eq hp, h.affectedGroups_eq hp⟩

def curtsy : PoseTable := .ofList
  [("Bend", ["Bow", "Leg>Bent"]), ("Bow", ["Arm>Down", "Bend", "Leg-"]), ("Greet", ["Bow", "Face+Smile"])]

def curtsyRevised : PoseTable := .ofList
  [("Bend", ["Bow", "Leg>Bent"]), ("Bow", ["Arm>Down", "Bend", "Leg-"]), ("Face+Smile", ["Bow"]),
    ("Greet", ["Face+Smile", "Bend"])]

theorem curtsy_reaches : curtsy.Reaches [] "Bow" q ↔ q = "Bend" ∨ q = "Bow" := by
  have hvisited : (curtsy.expandPose [] "Bow").visited = ["Bend", "Bow"] := by cbv
  simp [reaches_iff, hvisited]

theorem expansion_is_local_curtsy :
    curtsy.contains "Bow" = true ∧ curtsy.Matches curtsyRevised "Bow" ∧
    curtsyRevised.resolve "Bow" = ["Arm>Down", "Leg>Bent", "Leg-"] ∧
    (curtsy.withoutPose "Greet").affectedGroups "Bow" = ["Arm", "Leg"] := by
  have matching : curtsy.Matches curtsyRevised "Bow" := by
    constructor
    · intro q hq
      rcases curtsy_reaches.mp hq with rfl | rfl <;> decide
    · intro q hq
      rcases curtsy_reaches.mp hq with rfl | rfl <;> decide
  have apart : ¬ curtsy.Reaches [] "Bow" "Greet" := by simp [curtsy_reaches]
  have bow : curtsy.contains "Bow" = true := by decide
  obtain ⟨same, spared⟩ := expansion_is_local bow
  exact ⟨bow, matching, (same curtsyRevised matching).2.1.trans (by cbv),
    (spared "Greet" apart).2.2.trans (by cbv)⟩

end Portrait.PoseTable
