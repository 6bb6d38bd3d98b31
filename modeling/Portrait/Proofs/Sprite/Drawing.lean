import Mathlib
import Portrait.Proofs.Sprite.Ledger

/-! What a ledger draws: the sprites that it shows by level, those of one level as they were created. -/

namespace Portrait

section StableSort

variable {α : Type} {R : α → α → Prop} {le : α → α → Bool} {l : List α}

theorem pairwise_mergeSort_of_pairwise (trans : ∀ a b c, le a b = true → le b c = true → le a c = true)
    (total : ∀ a b, (le a b || le b a) = true) (h : l.Pairwise R) :
    (l.mergeSort le).Pairwise fun a b => le a b = true ∧ (le b a = true → R a b) := by
  have hperm := List.mergeSort_perm l.zipIdx (List.zipIdxLE le)
  have hsorted := List.pairwise_mergeSort (List.zipIdxLE_trans trans) (List.zipIdxLE_total total) l.zipIdx
  have hplaces : (l.zipIdx.mergeSort (List.zipIdxLE le)).Pairwise fun x y => x.2 ≠ y.2 := by
    apply List.pairwise_map.mp
    rw [← List.Nodup, (hperm.map _).nodup_iff, List.zipIdx_map_snd]
    exact List.nodup_range'
  -- It is the same sort with the places beside, and there the places decide what is left in a tie.
  rw [← List.mergeSort_zipIdx, List.pairwise_map]
  refine (hsorted.and hplaces).imp_of_mem ?_
  intro a b ha hb ⟨hle, hne⟩
  rw [hperm.mem_iff, List.mem_zipIdx_iff_getElem?] at ha hb
  rw [List.zipIdxLE] at hle
  split at hle
  · rename_i hab
    refine ⟨hab, fun hba => ?_⟩
    rw [if_pos hba] at hle
    obtain ⟨hi, ha⟩ := List.getElem?_eq_some_iff.mp ha
    obtain ⟨hj, hb⟩ := List.getElem?_eq_some_iff.mp hb
    have hlt : a.2 < b.2 := Nat.lt_of_le_of_ne (of_decide_eq_true hle) hne
    rw [← ha, ← hb]
    exact List.pairwise_iff_getElem.mp h a.2 b.2 hi hj hlt
  · cases hle

end StableSort

namespace Ledger

def drawing (s : Ledger) : List (SpriteRecord × Nat) :=
  (s.placed (·.isShown)).mergeSort fun a b => a.1.sprite.zIndex ≤ b.1.sprite.zIndex

theorem perm_drawing (s : Ledger) : s.drawing.Perm (s.placed (·.isShown)) := List.mergeSort_perm ..

theorem mem_drawing {s : Ledger} {r : SpriteRecord} {i : Nat} :
    (r, i) ∈ s.drawing ↔ s.records[i]? = some r ∧ r.isShown = true := by
  rw [s.perm_drawing.mem_iff, mem_placed]

theorem nodup_drawing (s : Ledger) : (s.drawing.map (·.2)).Nodup :=
  (s.perm_drawing.map _).nodup_iff.mpr (s.nodup_placed _)

theorem pairwise_drawing (s : Ledger) : s.drawing.Pairwise fun a b =>
    a.1.sprite.zIndex < b.1.sprite.zIndex ∨ a.1.sprite.zIndex = b.1.sprite.zIndex ∧ a.2 < b.2 := by
  have trans : ∀ a b c : SpriteRecord × Nat, decide (a.1.sprite.zIndex ≤ b.1.sprite.zIndex) = true →
      decide (b.1.sprite.zIndex ≤ c.1.sprite.zIndex) = true →
      decide (a.1.sprite.zIndex ≤ c.1.sprite.zIndex) = true := by
    simpa using fun _ _ _ => Int32.le_trans
  have total : ∀ a b : SpriteRecord × Nat, (decide (a.1.sprite.zIndex ≤ b.1.sprite.zIndex) ||
      decide (b.1.sprite.zIndex ≤ a.1.sprite.zIndex)) = true := by
    simpa using fun _ _ => Int32.le_total _ _
  have hsorted := pairwise_mergeSort_of_pairwise trans total (s.pairwise_placed (·.isShown))
  apply hsorted.imp
  intro a b ⟨hle, htie⟩
  rcases Int32.lt_or_eq_of_le (of_decide_eq_true hle) with hlt | heq
  · exact .inl hlt
  · exact .inr ⟨heq, htie (decide_eq_true (heq ▸ Int32.le_refl _))⟩

def shown (s : Ledger) : List SpriteRecord :=
  (s.records.filter (·.isShown)).mergeSort fun a b => a.sprite.zIndex ≤ b.sprite.zIndex

theorem drawn_eq (s : Ledger) : s.drawn = s.shown.map (·.sprite.layerId) := rfl

theorem shown_eq (s : Ledger) : s.shown = s.drawing.map (·.1) := by
  have hfirst : (s.placed (·.isShown)).map (·.1) = s.records.filter (·.isShown) := by
    conv_rhs => rw [← List.zipIdx_map_fst 0 s.records, List.filter_map]
    rfl
  rw [shown, ← hfirst]
  refine (List.map_mergeSort ?_).symm
  exact fun _ _ _ _ => rfl

theorem mem_shown {s : Ledger} {r : SpriteRecord} : r ∈ s.shown ↔ r ∈ s.records ∧ r.isShown = true := by
  rw [shown, (List.mergeSort_perm ..).mem_iff, List.mem_filter]

theorem pairwise_shown (s : Ledger) : s.shown.Pairwise fun r r' =>
    r.sprite.zIndex ≤ r'.sprite.zIndex ∧ (r'.sprite.zIndex ≤ r.sprite.zIndex →
      ∃ i j : Nat, i < j ∧ s.records[i]? = some r ∧ s.records[j]? = some r') := by
  rw [shown_eq, List.pairwise_map]
  refine s.pairwise_drawing.imp_of_mem ?_
  intro a b ha hb hbefore
  rcases hbefore with hlt | ⟨heq, hij⟩
  · exact ⟨Int32.le_of_lt hlt, fun hle => absurd (Int32.lt_of_lt_of_le hlt hle) Int32.lt_irrefl⟩
  · exact ⟨heq ▸ Int32.le_refl _, fun _ => ⟨a.2, b.2, hij, (mem_drawing.mp ha).1, (mem_drawing.mp hb).1⟩⟩

end Ledger

end Portrait
