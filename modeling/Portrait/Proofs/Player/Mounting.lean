import Mathlib.Data.List.Nodup
import Portrait.Player.Basic
import Portrait.Proofs.Sprite.Ledger

/-! Sprites of layers and their handles: mounting a layer whose id has a sprite releases that sprite. -/

namespace Portrait

namespace Player

section Assign

variable {Handle : Type} {id : String} {h old : Handle} {e : String × Handle}
  {es : List (String × Handle)}

theorem assign_cons_of_eq (heq : e.1 = id) :
    assign id h (e :: es) = ((id, h) :: es, some e.2) := by
  rw [assign, if_pos heq]

theorem assign_cons_of_ne (hne : e.1 ≠ id) :
    assign id h (e :: es) = (e :: (assign id h es).1, (assign id h es).2) := by
  rw [assign, if_neg hne]

theorem mem_of_assign_eq_some (heq : (assign id h es).2 = some old) : (id, old) ∈ es := by
  induction es with
  | nil => cases heq
  | cons e es ih =>
    by_cases he : e.1 = id
    · rw [assign_cons_of_eq he, Option.some.injEq] at heq
      rw [← he, ← heq]
      exact List.mem_cons_self
    · rw [assign_cons_of_ne he] at heq
      exact List.mem_cons_of_mem _ (ih heq)

theorem ne_of_assign_eq_none (heq : (assign id h es).2 = none) : ∀ e ∈ es, e.1 ≠ id := by
  induction es with
  | nil => simp
  | cons e es ih =>
    by_cases he : e.1 = id
    · rw [assign_cons_of_eq he] at heq
      cases heq
    · rw [assign_cons_of_ne he] at heq
      intro x hx
      rcases List.mem_cons.mp hx with rfl | hx
      · exact he
      · exact ih heq x hx

theorem mem_assign (hnd : (es.map (·.1)).Nodup) :
    e ∈ (assign id h es).1 ↔ e = (id, h) ∨ (e ∈ es ∧ e.1 ≠ id) := by
  induction es with
  | nil => simp [assign]
  | cons x es ih =>
    rw [List.map_cons, List.nodup_cons] at hnd
    obtain ⟨hx, hnd⟩ := hnd
    by_cases he : x.1 = id
    · have hrest : ∀ y ∈ es, y.1 ≠ id := by
        intro y hy hid
        apply hx
        rw [he, ← hid]
        exact List.mem_map_of_mem hy
      rw [assign_cons_of_eq he, List.mem_cons, List.mem_cons]
      apply or_congr_right
      constructor
      · exact fun hy => ⟨.inr hy, hrest e hy⟩
      · rintro ⟨rfl | hy, hne⟩
        · exact absurd he hne
        · exact hy
    · rw [assign_cons_of_ne he, List.mem_cons, List.mem_cons, ih hnd]
      constructor
      · rintro (rfl | rfl | ⟨hy, hne⟩)
        · exact .inr ⟨.inl rfl, he⟩
        · exact .inl rfl
        · exact .inr ⟨.inr hy, hne⟩
      · rintro (rfl | ⟨rfl | hy, hne⟩)
        · exact .inr (.inl rfl)
        · exact .inl rfl
        · exact .inr (.inr ⟨hy, hne⟩)

theorem nodup_assign (hnd : (es.map (·.1)).Nodup) : ((assign id h es).1.map (·.1)).Nodup := by
  induction es with
  | nil => simp [assign]
  | cons x es ih =>
    obtain ⟨hx, hnd'⟩ := List.nodup_cons.mp hnd
    by_cases he : x.1 = id
    · rw [assign_cons_of_eq he]
      subst he
      exact hnd
    · rw [assign_cons_of_ne he]
      refine List.nodup_cons.mpr ⟨?_, ih hnd'⟩
      intro hmem
      obtain ⟨y, hy, hyx⟩ := List.mem_map.mp hmem
      rcases (mem_assign hnd').mp hy with rfl | ⟨hy, _⟩
      · exact he hyx.symm
      · exact hx (hyx ▸ List.mem_map_of_mem hy)

end Assign

/-- The ledger holds one record a layer.  The records that are not released are the last ones of their
layer ids, and the handles are theirs. -/
structure Mounted (m : Model) (layers : List Layer) (s : Ledger) (handles : List (String × Nat)) :
    Prop where
  sprites : s.records.map (·.sprite) = layers.map m.sprite
  nodup : (handles.map (·.1)).Nodup
  mem_handles : ∀ id i, (id, i) ∈ handles ↔ LastAt (layers.map (·.id)) id i
  released : ∀ i r, s.records[i]? = some r →
    (r.released = false ↔ LastAt (layers.map (·.id)) r.sprite.layerId i)

namespace Mounted

variable {m : Model} {layers : List Layer} {s s' : Ledger} {handles es : List (String × Nat)}

theorem ids_eq (h : Mounted m layers s handles) : s.ids = layers.map (·.id) := by
  have := congrArg (List.map (·.layerId)) h.sprites
  simpa [Ledger.ids, Model.sprite, Function.comp_def] using this

theorem length_eq (h : Mounted m layers s handles) : s.records.length = layers.length := by
  simpa using congrArg List.length h.sprites

theorem lt_length (h : Mounted m layers s handles) {id : String} {i : Nat}
    (he : (id, i) ∈ handles) : i < s.records.length := by
  have hlt := ((h.mem_handles id i).mp he).lt_length
  rwa [List.length_map, ← h.length_eq] at hlt

theorem layerId_eq (h : Mounted m layers s handles) {e : String × Nat} (he : e ∈ handles)
    {r : SpriteRecord} (hr : s.records[e.2]? = some r) : r.sprite.layerId = e.1 := by
  have hlast := (h.mem_handles e.1 e.2).mp he
  rw [← h.ids_eq] at hlast
  have hid := hlast.1
  rw [Ledger.ids_getElem?, hr] at hid
  exact Option.some.inj hid

theorem nil (m : Model) : Mounted m [] {} [] where
  sprites := rfl
  nodup := .nil
  mem_handles _ _ := by simp [LastAt]
  released _ _ h := by cases h

theorem perm (h : Mounted m layers s handles) (hes : es.Perm handles) : Mounted m layers s es where
  sprites := h.sprites
  nodup := (hes.map _).nodup_iff.mpr h.nodup
  mem_handles id i := by rw [hes.mem_iff, h.mem_handles]
  released := h.released

theorem of_records (h : Mounted m layers s handles)
    (hrec : ∀ i : Nat, ∃ f : SpriteRecord → SpriteRecord, s'.records[i]? = s.records[i]?.map f ∧
      ∀ r, (f r).sprite = r.sprite ∧ (f r).released = r.released) :
    Mounted m layers s' handles where
  sprites := by
    rw [← h.sprites]
    apply List.ext_getElem?
    intro i
    obtain ⟨f, hf, hkeep⟩ := hrec i
    rw [List.getElem?_map, List.getElem?_map, hf, Option.map_map]
    congr 1
    funext r
    exact (hkeep r).1
  nodup := h.nodup
  mem_handles := h.mem_handles
  released i r hr := by
    obtain ⟨f, hf, hkeep⟩ := hrec i
    rw [hf] at hr
    obtain ⟨r', hr', rfl⟩ := Option.map_eq_some_iff.mp hr
    rw [(hkeep r').1, (hkeep r').2]
    exact h.released i r' hr'

theorem mount_records (h : Mounted m layers s handles) (l : Layer) (i : Nat) :
    (Player.mount m (s, handles) l).1.records[i]? =
      (s.records ++ [{ sprite := m.sprite l }])[i]?.map fun r =>
        if (l.id, i) ∈ handles then { r with visible := false, released := true } else r := by
  have hmount : (Player.mount m (s, handles) l).1 =
      (assign l.id s.records.length handles).2.elim (s.create (m.sprite l)).2
        (s.create (m.sprite l)).2.release := rfl
  rw [hmount]
  cases hold : (assign l.id s.records.length handles).2 with
  | none =>
    have hnot : (l.id, i) ∉ handles := fun hmem => ne_of_assign_eq_none hold _ hmem rfl
    simp [hnot, Ledger.create_records]
  | some old =>
    have hmem := mem_of_assign_eq_some hold
    have hiff : (l.id, i) ∈ handles ↔ old = i := by
      constructor
      · exact fun hi => ((h.mem_handles _ _).mp hmem).eq ((h.mem_handles _ _).mp hi)
      · exact fun hi => hi ▸ hmem
    simp only [Option.elim_some, Ledger.release_records, Ledger.create_records, hiff]

theorem mount (h : Mounted m layers s handles) (l : Layer) :
    Mounted m (layers ++ [l]) (Player.mount m (s, handles) l).1
      (Player.mount m (s, handles) l).2 where
  sprites := by
    have hnew : (layers ++ [l]).map m.sprite =
        (s.records ++ [({ sprite := m.sprite l } : SpriteRecord)]).map (·.sprite) := by
      simp [h.sprites]
    rw [hnew]
    apply List.ext_getElem?
    intro i
    rw [List.getElem?_map, List.getElem?_map, h.mount_records, Option.map_map]
    congr 1
    funext r
    by_cases hi : (l.id, i) ∈ handles <;> simp [hi]
  nodup := nodup_assign h.nodup
  mem_handles id i := by
    have hassign : (Player.mount m (s, handles) l).2 =
        (assign l.id s.records.length handles).1 := rfl
    rw [hassign, mem_assign h.nodup, List.map_append, List.map_singleton,
      LastAt.append_singleton_iff, h.mem_handles, List.length_map, h.length_eq, Prod.mk.injEq,
      and_comm (a := id ≠ l.id)]
  released i r hr := by
    rw [h.mount_records] at hr
    obtain ⟨r', hr', rfl⟩ := Option.map_eq_some_iff.mp hr
    rw [List.map_append, List.map_singleton, LastAt.append_singleton_iff, List.length_map]
    by_cases hi : i < s.records.length
    · have hne : i ≠ layers.length := Nat.ne_of_lt (h.length_eq ▸ hi)
      rw [List.getElem?_append_left hi] at hr'
      by_cases hmem : (l.id, i) ∈ handles
      · have hid : r'.sprite.layerId = l.id := h.layerId_eq hmem hr'
        simp [hmem, hid, hne]
      · rw [if_neg hmem, h.released i r' hr']
        rw [h.mem_handles] at hmem
        by_cases hid : r'.sprite.layerId = l.id
        · simp [hid, hne, hmem]
        · simp [hid]
    · have hlen : i = s.records.length := by
        have := (List.getElem?_eq_some_iff.mp hr').1
        rw [List.length_append, List.length_singleton] at this
        exact Nat.le_antisymm (Nat.lt_succ_iff.mp this) (Nat.not_lt.mp hi)
      have hmem : (l.id, i) ∉ handles := fun hi' => hi (h.lt_length hi')
      subst hlen
      rw [List.getElem?_append_right (Nat.le_refl _), Nat.sub_self, List.getElem?_cons_zero,
        Option.some.injEq] at hr'
      subst hr'
      rw [if_neg hmem]
      simp [Model.sprite, h.length_eq]

theorem foldl_mount (h : Mounted m layers s handles) (more : List Layer) :
    Mounted m (layers ++ more) (more.foldl (Player.mount m) (s, handles)).1
      (more.foldl (Player.mount m) (s, handles)).2 := by
  induction more generalizing layers s handles with
  | nil => rwa [List.append_nil]
  | cons l more ih =>
    have := ih (h.mount l)
    rwa [List.append_assoc] at this

theorem mem_handles_iff (h : Mounted m layers s handles) {id : String} {i : Nat} :
    (id, i) ∈ handles ↔
      ∃ r, s.records[i]? = some r ∧ r.sprite.layerId = id ∧ r.released = false := by
  constructor
  · intro he
    have hr := List.getElem?_eq_getElem (h.lt_length he)
    have hid := h.layerId_eq he hr
    refine ⟨_, hr, hid, (h.released i _ hr).mpr ?_⟩
    rw [hid]
    exact (h.mem_handles id i).mp he
  · rintro ⟨r, hr, rfl, hrel⟩
    exact (h.mem_handles _ i).mpr ((h.released i r hr).mp hrel)

theorem perm_live (h : Mounted m layers s handles) : handles.Perm s.live := by
  rw [List.perm_ext_iff_of_nodup (.of_map _ h.nodup) s.nodup_live]
  rintro ⟨id, i⟩
  rw [h.mem_handles_iff, Ledger.mem_live]

end Mounted

end Player

end Portrait
