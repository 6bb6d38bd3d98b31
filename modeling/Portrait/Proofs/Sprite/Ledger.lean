import Mathlib.Data.List.Induction
import Mathlib.Data.List.Nodup
import Mathlib.Data.List.Perm.Basic
import Portrait.Sprite.Ledger

/-! What a ledger shows: a layer id stands for the record at its last place. -/

namespace Portrait

def LastAt (names : List String) (name : String) (i : Nat) : Prop :=
  names[i]? = some name ∧ ∀ j, i < j → names[j]? ≠ some name

namespace LastAt

variable {names : List String} {name : String} {i j : Nat}

theorem mem (h : LastAt names name i) : name ∈ names := List.mem_of_getElem? h.1

theorem lt_length (h : LastAt names name i) : i < names.length :=
  (List.getElem?_eq_some_iff.mp h.1).1

theorem eq (h : LastAt names name i) (h' : LastAt names name j) : i = j := by
  rcases Nat.lt_trichotomy i j with hij | hij | hij
  · exact absurd h'.1 (h.2 j hij)
  · exact hij
  · exact absurd h.1 (h'.2 i hij)

theorem append_singleton_iff {x : String} :
    LastAt (names ++ [x]) name i ↔
      (name = x ∧ i = names.length) ∨ (name ≠ x ∧ LastAt names name i) := by
  constructor
  · rintro ⟨hi, hlast⟩
    by_cases hx : name = x
    · left
      refine ⟨hx, ?_⟩
      have hlt : i < (names ++ [x]).length := (List.getElem?_eq_some_iff.mp hi).1
      have hle : ¬ i < names.length := by
        intro hi'
        apply hlast names.length hi'
        simp [hx]
      rw [List.length_append, List.length_singleton] at hlt
      exact Nat.le_antisymm (Nat.lt_succ_iff.mp hlt) (Nat.not_lt.mp hle)
    · right
      have hlt : i < names.length := by
        by_contra hge
        rw [List.getElem?_append_right (Nat.not_lt.mp hge)] at hi
        exact hx (List.mem_singleton.mp (List.mem_of_getElem? hi))
      refine ⟨hx, by rwa [List.getElem?_append_left hlt] at hi, ?_⟩
      intro j hij hj
      have hjlt : j < names.length := (List.getElem?_eq_some_iff.mp hj).1
      apply hlast j hij
      rw [List.getElem?_append_left hjlt, hj]
  · rintro (⟨rfl, rfl⟩ | ⟨hx, hi, hlast⟩)
    · refine ⟨by simp, ?_⟩
      intro j hj
      have hge : (names ++ [name]).length ≤ j := by
        rw [List.length_append, List.length_singleton]
        exact hj
      simp [List.getElem?_eq_none hge]
    · have hlt : i < names.length := (List.getElem?_eq_some_iff.mp hi).1
      refine ⟨by rw [List.getElem?_append_left hlt, hi], ?_⟩
      intro j hij hj
      by_cases hjlt : j < names.length
      · rw [List.getElem?_append_left hjlt] at hj
        exact hlast j hij hj
      · rw [List.getElem?_append_right (Nat.not_lt.mp hjlt)] at hj
        exact hx (List.mem_singleton.mp (List.mem_of_getElem? hj))

end LastAt

theorem exists_lastAt {names : List String} {name : String} (h : name ∈ names) :
    ∃ i, LastAt names name i := by
  induction names using List.reverseRecOn with
  | nil => cases h
  | append_singleton names x ih =>
    by_cases hx : name = x
    · exact ⟨names.length, LastAt.append_singleton_iff.mpr (.inl ⟨hx, rfl⟩)⟩
    · have hmem : name ∈ names := by simpa [hx] using h
      obtain ⟨i, hi⟩ := ih hmem
      exact ⟨i, LastAt.append_singleton_iff.mpr (.inr ⟨hx, hi⟩)⟩

namespace Ledger

def ids (s : Ledger) : List String := s.records.map (·.sprite.layerId)

theorem ids_getElem? (s : Ledger) (i : Nat) :
    s.ids[i]? = s.records[i]?.map (·.sprite.layerId) := List.getElem?_map

theorem record?_eq_some_iff {s : Ledger} {id : String} {r : SpriteRecord} :
    s.record? id = some r ↔ ∃ i, LastAt s.ids id i ∧ s.records[i]? = some r := by
  obtain ⟨records, _⟩ := s
  simp only [record?, ids]
  induction records using List.reverseRecOn with
  | nil => simp
  | append_singleton records x ih =>
    rw [List.reverse_append, List.reverse_singleton, List.singleton_append, List.find?_cons,
      List.map_append, List.map_singleton]
    simp only [LastAt.append_singleton_iff, List.length_map]
    by_cases hx : id = x.sprite.layerId
    · simp [← hx]
    · have hx' : ¬ x.sprite.layerId = id := fun h => hx h.symm
      simp only [hx, hx', decide_false, ih, false_and, ne_eq, not_false_eq_true, true_and, false_or]
      apply exists_congr
      intro i
      apply and_congr_right
      intro h
      have hlt := h.lt_length
      rw [List.length_map] at hlt
      rw [List.getElem?_append_left hlt]

theorem isVisible_iff {s : Ledger} {id : String} :
    s.isVisible id = true ↔ ∃ i r, LastAt s.ids id i ∧ s.records[i]? = some r ∧ r.isShown = true := by
  rw [isVisible, Option.any_eq_true]
  simp only [record?_eq_some_iff]
  constructor
  · rintro ⟨r, ⟨i, hi, hr⟩, hs⟩
    exact ⟨i, r, hi, hr, hs⟩
  · rintro ⟨i, r, hi, hr, hs⟩
    exact ⟨r, ⟨i, hi, hr⟩, hs⟩

theorem create_records (s : Ledger) (sprite : Sprite) :
    (s.create sprite).2.records = s.records ++ [{ sprite := sprite }] := rfl

theorem setVisible_records (s : Ledger) (h : Nat) (visible : Bool) (i : Nat) :
    (s.setVisible h visible).records[i]? =
      s.records[i]?.map fun r => if h = i then { r with visible } else r := by
  rw [setVisible, List.getElem?_modify]
  cases s.records[i]? with
  | none => rfl
  | some r => by_cases hi : h = i <;> simp [hi]

theorem release_records (s : Ledger) (h i : Nat) :
    (s.release h).records[i]? =
      s.records[i]?.map fun r =>
        if h = i then { r with visible := false, released := true } else r := by
  rw [release, List.getElem?_modify]
  cases s.records[i]? with
  | none => rfl
  | some r => by_cases hi : h = i <;> simp [hi]

theorem foldl_setVisible_records (v : String → Bool) (handles : List (String × Nat)) (s : Ledger)
    (hids : ∀ e ∈ handles, ∀ r, s.records[e.2]? = some r → r.sprite.layerId = e.1) (i : Nat) :
    (handles.foldl (fun s e => s.setVisible e.2 (v e.1)) s).records[i]? =
      s.records[i]?.map fun r =>
        if (r.sprite.layerId, i) ∈ handles then { r with visible := v r.sprite.layerId } else r := by
  induction handles generalizing s with
  | nil => simp
  | cons e handles ih =>
    obtain ⟨id, h⟩ := e
    rw [List.foldl_cons, ih, setVisible_records]
    · cases hr : s.records[i]? with
      | none => rfl
      | some r =>
        simp only [Option.map_some, Option.some.injEq]
        by_cases hi : h = i
        · subst hi
          obtain rfl : r.sprite.layerId = id := hids (id, h) List.mem_cons_self r hr
          by_cases hlater : (r.sprite.layerId, h) ∈ handles <;> simp [hlater]
        · have hi' : ¬ i = h := fun heq => hi heq.symm
          simp [hi, hi']
    · intro e' he' r hr
      rw [setVisible_records] at hr
      obtain ⟨r', hr', rfl⟩ := Option.map_eq_some_iff.mp hr
      have := hids e' (List.mem_cons_of_mem _ he') r' hr'
      split <;> exact this

section Placed

variable (s : Ledger) (p : SpriteRecord → Bool)

def placed : List (SpriteRecord × Nat) := s.records.zipIdx.filter (p ·.1)

variable {s p} in
theorem mem_placed {r : SpriteRecord} {i : Nat} :
    (r, i) ∈ s.placed p ↔ s.records[i]? = some r ∧ p r = true := by
  rw [placed, List.mem_filter, List.mem_zipIdx_iff_getElem?]

theorem pairwise_placed : (s.placed p).Pairwise (·.2 < ·.2) := by
  apply List.Pairwise.filter
  apply List.pairwise_map.mp
  rw [List.zipIdx_map_snd]
  exact List.pairwise_lt_range'

theorem nodup_placed : ((s.placed p).map (·.2)).Nodup :=
  List.pairwise_map.mpr ((s.pairwise_placed p).imp Nat.ne_of_lt)

theorem length_placed : (s.placed p).length = s.records.countP p := by
  conv_rhs => rw [← List.zipIdx_map_fst 0 s.records, List.countP_map, List.countP_eq_length_filter]
  rfl

end Placed

def live (s : Ledger) : List (String × Nat) :=
  (s.records.zipIdx.filter (!·.1.released)).map fun x => (x.1.sprite.layerId, x.2)

theorem live_eq (s : Ledger) :
    s.live = (s.placed (!·.released)).map fun x => (x.1.sprite.layerId, x.2) := rfl

theorem mem_live {s : Ledger} {id : String} {i : Nat} :
    (id, i) ∈ s.live ↔
      ∃ r, s.records[i]? = some r ∧ r.sprite.layerId = id ∧ r.released = false := by
  rw [live_eq, List.mem_map]
  constructor
  · rintro ⟨⟨r, j⟩, hmem, heq⟩
    obtain ⟨hr, hrel⟩ := mem_placed.mp hmem
    obtain ⟨rfl, rfl⟩ := Prod.mk.inj heq
    exact ⟨r, hr, rfl, by simpa using hrel⟩
  · rintro ⟨r, hr, rfl, hrel⟩
    exact ⟨(r, i), mem_placed.mpr ⟨hr, by simpa using hrel⟩, rfl⟩

theorem nodup_live (s : Ledger) : s.live.Nodup := by
  apply List.Nodup.of_map (·.2)
  rw [live_eq, List.map_map]
  exact s.nodup_placed _

theorem countP_live (s : Ledger) (v : String → Bool)
    (hv : ∀ id i r, (id, i) ∈ s.live → s.records[i]? = some r → r.visible = v id) :
    s.live.countP (v ·.1) = s.records.countP (·.isShown) := by
  have hfst : s.records = s.records.zipIdx.map (·.1) := (List.zipIdx_map_fst 0 _).symm
  rw [live, List.countP_map, List.countP_filter]
  conv_rhs => rw [hfst, List.countP_map]
  apply List.countP_congr
  rintro ⟨r, i⟩ hmem
  have hr := List.mem_zipIdx_iff_getElem?.mp hmem
  cases hrel : r.released with
  | true => simp [SpriteRecord.isShown, hrel]
  | false => simp [SpriteRecord.isShown, hrel, hv _ i r (mem_live.mpr ⟨r, hr, rfl, hrel⟩) hr]

end Ledger

end Portrait
