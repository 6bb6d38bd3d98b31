import Mathlib
import Portrait.Proofs.Player.Agreement

/-! The records of a ledger are told by the layers and by what is visible, and after a teardown by the
layers alone.  So a reset leaves no trace of what was before it. -/

namespace Portrait

namespace Ledger

def Hidden (s : Ledger) : Prop := ∀ r ∈ s.records, r.released = true → r.visible = false

theorem foldl_release_records (handles : List (String × Nat)) (s : Ledger) (i : Nat) :
    (handles.foldl (fun s e => s.release e.2) s).records[i]? =
      s.records[i]?.map fun r =>
        if i ∈ handles.map (·.2) then { r with visible := false, released := true } else r := by
  induction handles generalizing s with
  | nil => simp
  | cons e handles ih =>
    rw [List.foldl_cons, ih, release_records]
    cases s.records[i]? with
    | none => rfl
    | some r =>
      by_cases he : e.2 = i
      · simp [he]
      · have he' : ¬ i = e.2 := fun heq => he heq.symm
        simp only [Option.map_some, if_neg he, List.map_cons, List.mem_cons, he', false_or]

end Ledger

namespace Player

variable {m m' : Model} {layers : List Layer} {s : Ledger} {handles es : List (String × Nat)}
  {p q : Player Ledger Nat} {operations operations' : List Operation} {i : Nat} {r : SpriteRecord}

theorem Mounted.hidden_mount (h : Mounted m layers s handles) (hs : s.Hidden) (l : Layer) :
    (Player.mount m (s, handles) l).1.Hidden := by
  intro r hr hrel
  obtain ⟨i, hi⟩ := List.mem_iff_getElem?.mp hr
  rw [h.mount_records] at hi
  obtain ⟨r', hr', rfl⟩ := Option.map_eq_some_iff.mp hi
  by_cases hmem : (l.id, i) ∈ handles
  · rw [if_pos hmem]
  · rw [if_neg hmem] at hrel ⊢
    rcases List.mem_append.mp (List.mem_of_getElem? hr') with hr' | hr'
    · exact hs r' hr' hrel
    · rw [List.mem_singleton.mp hr']

theorem Mounted.hidden_foldl_mount (h : Mounted m layers s handles) (hs : s.Hidden)
    (more : List Layer) : (more.foldl (Player.mount m) (s, handles)).1.Hidden := by
  induction more generalizing layers s handles with
  | nil => exact hs
  | cons l more ih => exact ih (h.mount l) (h.hidden_mount hs l)

theorem hidden_sync (h : Mounted p.model p.model.layers p.stage p.handles) (hs : p.stage.Hidden) :
    p.sync.stage.Hidden := by
  intro r hr hrel
  obtain ⟨i, hi⟩ := List.mem_iff_getElem?.mp hr
  rw [sync_records h] at hi
  obtain ⟨r', hr', rfl⟩ := Option.map_eq_some_iff.mp hi
  split at hrel
  · rename_i he
    obtain ⟨r'', hr'', -, hlive⟩ := h.mem_handles_iff.mp he
    obtain rfl := Option.some.inj (hr'.symm.trans hr'')
    exact absurd hrel (by simp [hlive])
  · rename_i he
    rw [if_neg he]
    exact hs r' (List.mem_of_getElem? hr') hrel

structure Presents (p : Player Ledger Nat) : Prop extends Agrees p where
  hidden : p.stage.Hidden

structure Vacated (p : Player Ledger Nat) : Prop where
  sprites : p.stage.records.map (·.sprite) = p.model.layers.map p.model.sprite
  handles : p.handles = []
  gone : ∀ r ∈ p.stage.records, r.released = true ∧ r.visible = false

namespace Presents

theorem perm (h : p.Presents) (hes : es.Perm p.handles) : Presents { p with handles := es } where
  toAgrees := h.toAgrees.perm hes
  hidden := h.hidden

theorem start (m : Model) {arrange : List (String × Nat) → List (String × Nat)}
    (harrange : ∀ es, (arrange es).Perm es) : (Player.start m ({} : Ledger) arrange).Presents where
  toAgrees := agrees_start m harrange
  hidden := by
    have hmounted := (Mounted.nil m).foldl_mount m.layers
    rw [List.nil_append] at hmounted
    apply hidden_sync (hmounted.perm (harrange _))
    exact (Mounted.nil m).hidden_foldl_mount (List.forall_mem_nil _) m.layers

theorem perform (h : p.Presents) (a : Action) : (p.perform a).Presents where
  toAgrees := h.toAgrees.perform a
  hidden := by
    cases hu : a.updates p.model with
    | true =>
      rw [perform_of_updates hu]
      exact hidden_sync h.mounted h.hidden
    | false =>
      rw [perform_of_not_updates hu]
      exact h.hidden

theorem teardown_records (p : Player Ledger Nat) (i : Nat) :
    p.teardown.stage.records[i]? = p.stage.records[i]?.map fun r =>
      if i ∈ p.handles.map (·.2) then { r with visible := false, released := true } else r :=
  Ledger.foldl_release_records p.handles p.stage i

theorem teardown (h : p.Presents) : p.teardown.Vacated where
  sprites := by
    change p.teardown.stage.records.map (·.sprite) = p.model.layers.map p.model.sprite
    rw [← h.mounted.sprites]
    apply List.ext_getElem?
    intro i
    rw [List.getElem?_map, List.getElem?_map, teardown_records, Option.map_map]
    congr 1
    funext r
    by_cases hi : i ∈ p.handles.map (·.2) <;> simp [hi]
  handles := rfl
  gone := by
    intro r hr
    obtain ⟨i, hi⟩ := List.mem_iff_getElem?.mp hr
    rw [teardown_records] at hi
    obtain ⟨r', hr', rfl⟩ := Option.map_eq_some_iff.mp hi
    split
    · exact ⟨rfl, rfl⟩
    · rename_i hnot
      have hrel : r'.released = true := by
        by_contra hlive
        have he : (r'.sprite.layerId, i) ∈ p.handles :=
          h.mounted.mem_handles_iff.mpr ⟨r', hr', rfl, by simpa using hlive⟩
        exact hnot (List.mem_map_of_mem he)
      exact ⟨hrel, h.hidden r' (List.mem_of_getElem? hr') hrel⟩

end Presents

namespace Vacated

theorem perm (h : p.Vacated) (hes : es.Perm p.handles) : Vacated { p with handles := es } where
  sprites := h.sprites
  handles := List.Perm.eq_nil (h.handles ▸ hes)
  gone := h.gone

theorem operate_records (h : p.handles = []) (o : Operation) :
    (p.operate o).stage.records = p.stage.records := by
  cases o with
  | perform a =>
    cases hu : a.updates p.model with
    | true =>
      simp only [operate, perform_of_updates hu, sync, h, showAll]
      rfl
    | false => rw [operate, perform_of_not_updates hu]
  | teardown => simp only [operate, Player.teardown, h, List.foldl_nil]

theorem operate (h : p.Vacated) (o : Operation) : (p.operate o).Vacated where
  sprites := by rw [operate_records h.handles, operate_model, h.sprites]
  handles := by
    cases o with
    | perform a => exact perform_handles_eq_nil h.handles a
    | teardown => rfl
  gone := by
    rw [operate_records h.handles]
    exact h.gone

end Vacated

theorem Run.presents_or_vacated (h : Run operate m ({} : Ledger) operations p) :
    (.teardown ∉ operations ∧ p.Presents) ∨ (.teardown ∈ operations ∧ p.Vacated) := by
  induction h with
  | start harrange => exact .inl ⟨List.not_mem_nil, .start m harrange⟩
  | @move operations p o es hrun hes ih =>
    rcases ih with ⟨hno, hp⟩ | ⟨hyes, hp⟩
    · cases o with
      | perform a => exact .inl ⟨by simpa using hno, (hp.perm hes).perform a⟩
      | teardown => exact .inr ⟨by simp, (hp.perm hes).teardown⟩
    · exact .inr ⟨List.mem_append_left _ hyes, (hp.perm hes).operate o⟩

theorem Run.presents {actions : List Action} (h : Run perform m ({} : Ledger) actions p) :
    p.Presents := by
  rcases h.of_perform.presents_or_vacated with ⟨-, hp⟩ | ⟨hyes, -⟩
  · exact hp
  · simp at hyes

/-! ### What determines the records -/

attribute [ext] SpriteRecord

theorem records_eq_of_sprites {s s' : Ledger}
    (hsprites : s.records.map (·.sprite) = s'.records.map (·.sprite))
    (h : ∀ (i : Nat) r r', s.records[i]? = some r → s'.records[i]? = some r' → r.sprite = r'.sprite →
      r = r') : s.records = s'.records := by
  have hlength : s.records.length = s'.records.length := by
    simpa using congrArg List.length hsprites
  apply List.ext_getElem hlength
  intro i hi hi'
  refine h i _ _ (List.getElem?_eq_getElem hi) (List.getElem?_eq_getElem hi') ?_
  simpa [hi, hi'] using congrArg (·[i]?) hsprites

theorem Presents.records_eq (hp : p.Presents) (hq : q.Presents)
    (hlayers : p.model.layers = q.model.layers) (hsprite : p.model.sprite = q.model.sprite)
    (hv : p.visibility = q.visibility) : p.stage.records = q.stage.records := by
  have hsprites : p.stage.records.map (·.sprite) = q.stage.records.map (·.sprite) := by
    rw [hp.mounted.sprites, hq.mounted.sprites, hlayers, hsprite]
  apply records_eq_of_sprites hsprites
  intro i r r' hr hr' heq
  have hreleased : r.released = r'.released := by
    rw [Bool.eq_iff_iff, ← not_iff_not, Bool.not_eq_true, Bool.not_eq_true,
      hp.mounted.released i r hr, hq.mounted.released i r' hr', hlayers, heq]
  refine SpriteRecord.ext heq ?_ hreleased
  -- A released sprite is hidden; any other one is held, and so it was told what is visible.
  cases hrel : r.released with
  | true =>
    rw [hp.hidden r (List.mem_of_getElem? hr) hrel,
      hq.hidden r' (List.mem_of_getElem? hr') (hreleased ▸ hrel)]
  | false =>
    have he := hp.mounted.mem_handles_iff.mpr ⟨r, hr, rfl, hrel⟩
    have he' := hq.mounted.mem_handles_iff.mpr ⟨r', hr', rfl, hreleased ▸ hrel⟩
    rw [hp.synced _ he r hr, hq.synced _ he' r' hr', hv, heq]

theorem Vacated.records_eq (hp : p.Vacated) (hq : q.Vacated)
    (hlayers : p.model.layers = q.model.layers) (hsprite : p.model.sprite = q.model.sprite) :
    p.stage.records = q.stage.records := by
  apply records_eq_of_sprites (by rw [hp.sprites, hq.sprites, hlayers, hsprite])
  intro i r r' hr hr' heq
  obtain ⟨hrel, hvis⟩ := hp.gone r (List.mem_of_getElem? hr)
  obtain ⟨hrel', hvis'⟩ := hq.gone r' (List.mem_of_getElem? hr')
  exact SpriteRecord.ext heq (hvis.trans hvis'.symm) (hrel.trans hrel'.symm)

theorem Run.records_eq (hp : Run operate m ({} : Ledger) operations p)
    (hq : Run operate m' ({} : Ledger) operations q) (hlayers : m.layers = m'.layers)
    (hsprite : m.sprite = m'.sprite) (hv : p.visibility = q.visibility) :
    p.stage.records = q.stage.records := by
  rw [← hp.model_eq operate_model, ← hq.model_eq operate_model] at hlayers hsprite
  rcases hp.presents_or_vacated with ⟨hno, hp⟩ | ⟨hyes, hp⟩ <;>
    rcases hq.presents_or_vacated with ⟨hno', hq⟩ | ⟨hyes', hq⟩
  · exact hp.records_eq hq hlayers hsprite hv
  · exact absurd hyes' hno
  · exact absurd hyes hno'
  · exact hp.records_eq hq hlayers hsprite

/-! ### The past before a reset -/

/-- What is done before a reset cannot be told afterwards: the state, what is visible, the sprites and
the order in which they are drawn are those of a player that did without it. -/
theorem reset_erases_past {before after : List Action}
    (h : Run perform m ({} : Ledger) (before ++ .reset :: after) p)
    (h' : Run perform m ({} : Ledger) after q) :
    p.state = q.state ∧ p.visibility = q.visibility ∧ p.stage.records = q.stage.records ∧
      p.stage.drawn = q.stage.drawn := by
  have hmodel : p.model = q.model := by rw [h.model_eq perform_model, h'.model_eq perform_model]
  have hstate : p.state = q.state := by
    rw [h.state_eq, h'.state_eq, List.foldl_append, List.foldl_cons]
    rfl
  have hvisibility : p.visibility = q.visibility := by rw [visibility, visibility, hstate, hmodel]
  have hrecords : p.stage.records = q.stage.records :=
    h.presents.records_eq h'.presents (by rw [hmodel]) (by rw [hmodel]) hvisibility
  exact ⟨hstate, hvisibility, hrecords, by rw [Ledger.drawn, Ledger.drawn, hrecords]⟩

def fencer : Model where
  assets := { layers := [.conventional "Arm" "Up", .conventional "Arm" "Down",
    { id := "Arm/Up", group := "Arm", name := "Up", order := -1 }] }
  controller := {
    baseLayers := ["Arm+Down"]
    defaultPoses := ["Guard"]
    poses := .ofList [("Guard", ["Arm>Up"]), ("Lunge", ["Arm>Down"])] }

def bout : List Action :=
  [.addPose "Lunge", .setPose "Parry", .setLayer "Leg/Bent" true, .setLayer "Arm/Up" false]

def fenced (actions : List Action) : Player Ledger Nat :=
  actions.foldl perform (.start fencer ({} : Ledger))

theorem reset_erases_past_fencer :
    Run perform fencer ({} : Ledger) (bout ++ [.reset, .setLayer "Arm/Down" true])
      (fenced (bout ++ [.reset, .setLayer "Arm/Down" true])) ∧
    (fenced (bout ++ [.setLayer "Arm/Down" true])).stage.drawn = ["Arm/Down"] ∧
    (fenced (bout ++ [.reset, .setLayer "Arm/Down" true])).stage.drawn = ["Arm/Up", "Arm/Down"] := by
  have run (actions : List Action) : Run perform fencer ({} : Ledger) actions (fenced actions) :=
    .foldl_start perform fencer ({} : Ledger) actions
  have fresh : (fenced [.setLayer "Arm/Down" true]).stage.drawn = ["Arm/Up", "Arm/Down"] := by cbv
  have erased := reset_erases_past (run (bout ++ [.reset, .setLayer "Arm/Down" true])) (run _)
  exact ⟨run _, by cbv, erased.2.2.2.trans fresh⟩

end Player

end Portrait
