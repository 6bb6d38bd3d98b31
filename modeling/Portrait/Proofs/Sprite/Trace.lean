import Mathlib.Data.List.Nodup
import Mathlib.Data.List.Perm.Basic
import Portrait.Sprite.Recorder

/-! Traces of calls: a sprite is created, then used, then released, and never used again. -/

namespace Portrait

namespace Call

def handle? : Call → Option Nat
  | .create h _ | .setVisible h _ | .release h => some h
  | .sortChildren => none

def created? : Call → Option (Sprite × Nat)
  | .create h sprite => some (sprite, h)
  | _ => none

def released? : Call → Option Nat
  | .release h => some h
  | _ => none

/-- Not if the first call releases the sprite of the second one, or the second one creates the sprite
of the first one. -/
def MayPrecede (a b : Call) : Prop :=
  (∀ h, a = .release h → b.handle? ≠ some h) ∧
    ∀ h sprite, b = .create h sprite → a.handle? ≠ some h

theorem mem_released {calls : List Call} {n : Nat} :
    n ∈ calls.filterMap released? ↔ .release n ∈ calls := by
  rw [List.mem_filterMap]
  constructor
  · rintro ⟨c, hc, hn⟩
    cases c with
    | release h => rwa [← Option.some.inj hn]
    | _ => cases hn
  · exact fun h => ⟨.release n, h, rfl⟩

end Call

/-- The calls create the sprites in order, each once.  Every sprite is held or was released once, and
the calls on it lie between its creation and its release. -/
structure Traced (sprites : List Sprite) (calls : List Call) (held : List Nat) : Prop where
  created : calls.filterMap Call.created? = sprites.zipIdx
  accounted : (calls.filterMap Call.released? ++ held).Perm (List.range sprites.length)
  known : ∀ c ∈ calls, ∀ n, c.handle? = some n → n < sprites.length
  ordered : calls.Pairwise Call.MayPrecede

namespace Traced

variable {sprites : List Sprite} {calls : List Call} {held held' : List Nat} {c : Call} {n : Nat}

theorem nil : Traced [] [] [] where
  created := rfl
  accounted := .nil
  known := List.forall_mem_nil _
  ordered := .nil

theorem perm (h : Traced sprites calls held) (hheld : held'.Perm held) : Traced sprites calls held' where
  created := h.created
  accounted := (hheld.append_left _).trans h.accounted
  known := h.known
  ordered := h.ordered

theorem lt_length (h : Traced sprites calls held) (hn : n ∈ held) : n < sprites.length :=
  List.mem_range.mp (h.accounted.mem_iff.mp (List.mem_append_right _ hn))

theorem not_released (h : Traced sprites calls held) (hn : n ∈ held) : .release n ∉ calls := by
  have hnodup := h.accounted.nodup_iff.mpr List.nodup_range
  intro hmem
  exact List.disjoint_of_nodup_append hnodup (Call.mem_released.mpr hmem) hn

theorem ordered_append (h : calls.Pairwise Call.MayPrecede) (hc : ∀ a ∈ calls, a.MayPrecede c) :
    (calls ++ [c]).Pairwise Call.MayPrecede := by
  refine List.pairwise_append.mpr ⟨h, List.pairwise_singleton _ _, fun a ha b hb => ?_⟩
  rw [List.mem_singleton.mp hb]
  exact hc a ha

theorem known_append {k : Nat} (h : ∀ a ∈ calls, ∀ n, a.handle? = some n → n < k)
    (hc : ∀ n, c.handle? = some n → n < k) : ∀ a ∈ calls ++ [c], ∀ n, a.handle? = some n → n < k := by
  intro a ha
  rcases List.mem_append.mp ha with ha | ha
  · exact h a ha
  · rwa [List.mem_singleton.mp ha]

theorem may_precede (h : Traced sprites calls held) (hc : ∀ n, c.handle? = some n → n ∈ held)
    (hnew : c.created? = none) : ∀ a ∈ calls, a.MayPrecede c := by
  intro a ha
  constructor
  · rintro n rfl hn
    exact h.not_released (hc n hn) ha
  · rintro n sprite rfl
    cases hnew

theorem use (h : Traced sprites calls held) (hc : ∀ n, c.handle? = some n → n ∈ held)
    (hnew : c.created? = none) (hlast : c.released? = none) : Traced sprites (calls ++ [c]) held where
  created := by simp [h.created, hnew]
  accounted := by simpa [hlast] using h.accounted
  known := known_append h.known fun n hn => h.lt_length (hc n hn)
  ordered := ordered_append h.ordered (h.may_precede hc hnew)

theorem create (h : Traced sprites calls held) (sprite : Sprite) :
    Traced (sprites ++ [sprite]) (calls ++ [.create sprites.length sprite])
      (sprites.length :: held) where
  created := by simp [h.created, Call.created?, List.zipIdx_append]
  accounted := by
    have hnone : Call.released? (.create sprites.length sprite) = none := rfl
    rw [List.filterMap_append, List.filterMap_cons_none hnone, List.filterMap_nil, List.append_nil,
      List.length_append, List.length_singleton, List.range_succ]
    exact List.perm_middle.trans ((h.accounted.cons _).trans (List.perm_append_singleton _ _).symm)
  known := by
    rw [List.length_append, List.length_singleton]
    apply known_append
    · exact fun a ha n hn => Nat.lt_succ_of_lt (h.known a ha n hn)
    · intro n hn
      obtain rfl : sprites.length = n := Option.some.inj hn
      exact Nat.lt_succ_self _
  ordered := by
    apply ordered_append h.ordered
    intro a ha
    constructor
    · rintro n rfl hn
      exact Nat.ne_of_gt (h.known _ ha n rfl) (Option.some.inj hn)
    · rintro n _ heq hn
      injection heq with heq
      exact Nat.ne_of_gt (h.known a ha n hn) heq

theorem release (h : Traced sprites calls (n :: held)) :
    Traced sprites (calls ++ [.release n]) held := by
  have hheld : ∀ k, (Call.release n).handle? = some k → k ∈ n :: held := by
    intro k hk
    obtain rfl : n = k := Option.some.inj hk
    exact List.mem_cons_self
  exact {
    created := by simp [h.created, Call.created?]
    accounted := by simpa [Call.released?] using h.accounted
    known := known_append h.known fun k hk => h.lt_length (hheld k hk)
    ordered := ordered_append h.ordered (h.may_precede hheld rfl) }

end Traced

end Portrait
