import Mathlib
import Portrait.Proofs.Player.DrawOrder
import Portrait.Proofs.Player.Records

/-! The order in which a model lists its layers.  If their ids are distinct, it decides nothing but how the
layers of one level are drawn over one another. -/

namespace Portrait

def Model.withLayers (m : Model) (layers : List Layer) : Model := { m with assets := { layers } }

def Model.level (m : Model) (id : String) : Int32 := (m.layer? id).elim 0 (·.order)

/-! ### What is visible -/

variable {m : Model} {layers layers' : List Layer} {c : Command}

theorem Command.effects_perm (h : layers'.Perm layers) (c : Command) :
    (c.effects layers').Perm (c.effects layers) := by
  cases hop : c.op with
  | reveal => simp [effects, hop]
  | hide =>
    simp only [effects, hop]
    split
    · exact (h.filter _).map _
    · exact .refl _
  | select =>
    simp only [effects, hop]
    exact (h.filter _).map _

theorem Command.nodup_keys_effects (h : (layers.map (·.id)).Nodup) (c : Command) :
    ((c.effects layers).map (·.1)).Nodup := by
  have members : ((layers.filter (·.group = c.group)).map (·.id)).Nodup :=
    h.sublist (List.filter_sublist.map _)
  cases hop : c.op with
  | reveal => simp [effects, hop]
  | hide =>
    simp only [effects, hop]
    split
    · simpa [Function.comp_def] using members
    · simp
  | select => simpa [effects, hop, Function.comp_def] using members

theorem Visibility.applyAll_perm (hperm : layers'.Perm layers) (hnodup : (layers.map (·.id)).Nodup)
    (v : Visibility) (commands : List String) : v.applyAll layers' commands = v.applyAll layers commands := by
  induction commands generalizing v with
  | nil => rfl
  | cons raw commands ih =>
    rw [applyAll_cons, applyAll_cons, ih, apply, apply,
      v.insertAll_perm (Command.effects_perm hperm _) (Command.nodup_keys_effects hnodup _)]

theorem PlayerState.visibility_withLayers (hperm : layers.Perm m.layers)
    (hnodup : (m.layers.map (·.id)).Nodup) (s : PlayerState) :
    s.visibility (m.withLayers layers) = s.visibility m := by
  rw [visibility_eq, visibility_eq]
  exact congrArg (·.insertAll s.overrides.entries)
    (Visibility.applyAll_perm hperm hnodup ∅ (s.commands m))

theorem Player.Operation.state_withLayers (m : Model) (layers : List Layer) :
    Operation.state (m.withLayers layers) = Operation.state m := by
  funext s o
  cases o with
  | perform a => cases a <;> rfl
  | teardown => rfl

/-! ### What is drawn -/

theorem Model.level_eq (hnodup : (m.layers.map (·.id)).Nodup) {l : Layer} (hl : l ∈ m.layers) :
    m.level l.id = l.order := by
  have hsome : (m.layers.find? (·.id = l.id)).isSome = true :=
    List.find?_isSome.mpr ⟨l, hl, decide_eq_true rfl⟩
  obtain ⟨l', hl'⟩ := Option.isSome_iff_exists.mp hsome
  have hid : l'.id = l.id := by simpa using List.find?_some hl'
  have heq : l' = l := List.inj_on_of_nodup_map hnodup (List.mem_of_find?_eq_some hl') hl hid
  rw [level, layer?, hl', Option.elim_some, heq]

theorem DrawnBefore.level_le (hperm : layers.Perm m.layers) (hnodup : (m.layers.map (·.id)).Nodup)
    {a b : String} (h : DrawnBefore layers a b) : m.level a ≤ m.level b := by
  have level_of {id : String} {i : Nat} {l : Layer} (hlast : LastAt (layers.map (·.id)) id i)
      (hl : layers[i]? = some l) : m.level id = l.order := by
    have hid := hlast.1
    rw [List.getElem?_map, hl, Option.map_some, Option.some.injEq] at hid
    rw [← hid, Model.level_eq hnodup (hperm.mem_iff.mp (List.mem_of_getElem? hl))]
  obtain ⟨i, j, x, y, hi, hx, hj, hy, horder⟩ := h
  rw [level_of hi hx, level_of hj hy]
  exact horder.elim Int32.le_of_lt fun h => h.1 ▸ Int32.le_refl _

namespace Player

variable {operations : List Operation} {p q : Player Ledger Nat} {id : String}

namespace Vacated

theorem isVisible_eq (h : p.Vacated) (id : String) : p.stage.isVisible id = false := by
  rw [← Bool.not_eq_true, Ledger.isVisible_iff]
  rintro ⟨i, r, -, hr, hshown⟩
  simp [SpriteRecord.isShown, (h.gone r (List.mem_of_getElem? hr)).2] at hshown

theorem drawn_eq (h : p.Vacated) : p.stage.drawn = [] := by
  have hshown : p.stage.records.filter (·.isShown) = [] := by
    rw [List.filter_eq_nil_iff]
    intro r hr
    simp [SpriteRecord.isShown, (h.gone r hr).2]
  rw [Ledger.drawn, hshown, List.mergeSort_nil, List.map_nil]

end Vacated

namespace Run

theorem isVisible_iff (h : Run operate m ({} : Ledger) operations p) :
    p.stage.isVisible id = true ↔
      .teardown ∉ operations ∧ id ∈ m.layers.map (·.id) ∧ p.visibility.get? id = some true := by
  rcases h.presents_or_vacated with ⟨hno, hp⟩ | ⟨hyes, hp⟩
  · rw [hp.toAgrees.isVisible_iff, h.model_eq operate_model]
    exact (and_iff_right hno).symm
  · simp [hp.isVisible_eq, hyes]

theorem mem_drawn (h : Run operate m ({} : Ledger) operations p) :
    id ∈ p.stage.drawn ↔ p.stage.isVisible id = true := by
  rcases h.presents_or_vacated with ⟨-, hp⟩ | ⟨-, hp⟩
  · exact hp.mounted.mem_drawn
  · simp [hp.drawn_eq, hp.isVisible_eq]

theorem pairwise_drawn (h : Run operate m ({} : Ledger) operations p) :
    p.stage.drawn.Pairwise (DrawnBefore m.layers) := by
  rcases h.presents_or_vacated with ⟨-, hp⟩ | ⟨-, hp⟩
  · rw [← h.model_eq operate_model]
    exact hp.mounted.pairwise_drawn
  · rw [hp.drawn_eq]
    exact .nil

theorem nodup_drawn (h : Run operate m ({} : Ledger) operations p) : p.stage.drawn.Nodup :=
  nodup_of_pairwise_drawnBefore h.pairwise_drawn

theorem pairwise_levels {m' : Model} (h : Run operate m' ({} : Ledger) operations p)
    (hperm : m'.layers.Perm m.layers) (hnodup : (m.layers.map (·.id)).Nodup) :
    (p.stage.drawn.map m.level).Pairwise (· ≤ ·) :=
  List.pairwise_map.mpr (h.pairwise_drawn.imp fun hbefore => hbefore.level_le hperm hnodup)

end Run

/-- The order of the layers does not show, if their ids are distinct.  Two players that the same happens to,
one of a model and one of the model with its layers in another order, agree in their states, in what is
visible, and in the sprites that are shown.  They draw the same ids on the same levels one after the other,
so that only ids of one level may have changed places. -/
theorem layer_order_is_hidden (hnodup : (m.layers.map (·.id)).Nodup) (hperm : layers.Perm m.layers)
    (hp : Run operate m ({} : Ledger) operations p)
    (hq : Run operate (m.withLayers layers) ({} : Ledger) operations q) :
    q.state = p.state ∧ q.visibility = p.visibility ∧
      (∀ id, q.stage.isVisible id = p.stage.isVisible id) ∧ q.stage.drawn.Perm p.stage.drawn ∧
      q.stage.drawn.map m.level = p.stage.drawn.map m.level := by
  have hstate : q.state = p.state := by
    rw [hp.operate_state_eq, hq.operate_state_eq, Operation.state_withLayers]
    rfl
  have hvisibility : q.visibility = p.visibility := by
    rw [visibility, visibility, hp.model_eq operate_model, hq.model_eq operate_model, hstate,
      PlayerState.visibility_withLayers hperm hnodup]
  have hids : ∀ id, id ∈ (m.withLayers layers).layers.map (·.id) ↔ id ∈ m.layers.map (·.id) :=
    fun id => (hperm.map _).mem_iff
  have hshown (id : String) : q.stage.isVisible id = p.stage.isVisible id := by
    rw [Bool.eq_iff_iff, hp.isVisible_iff, hq.isVisible_iff, hvisibility, hids]
  have hdrawn : q.stage.drawn.Perm p.stage.drawn :=
    (List.perm_ext_iff_of_nodup hq.nodup_drawn hp.nodup_drawn).mpr fun id => by
      rw [hq.mem_drawn, hp.mem_drawn, hshown]
  refine ⟨hstate, hvisibility, hshown, hdrawn, ?_⟩
  exact (hdrawn.map m.level).eq_of_pairwise (fun _ _ _ _ => Int32.le_antisymm)
    (hq.pairwise_levels hperm hnodup) (hp.pairwise_levels (.refl _) hnodup)

def troupe : Model where
  assets := { layers := [.conventional "Arm" "Up", .conventional "Arm" "Down",
    { id := "Body/Base", group := "Body", name := "Base", order := -1 }, .conventional "Leg" "Bent"] }
  controller := {
    baseLayers := ["Body+Base", "Leg>Bent"]
    poses := .ofList [("Lower", ["Arm>Down"]), ("Raise", ["Arm>Up", "Arm+Down"])] }

def troupeActs : List Operation :=
  [.perform (.setPose "Lower"), .perform (.addPose "Raise"), .perform (.setLayer "Hat" true)]

def trouped (m : Model) : Player Ledger Nat := troupeActs.foldl operate (.start m ({} : Ledger))

theorem layer_order_is_hidden_troupe :
    (troupe.layers.map (·.id)).Nodup ∧ troupe.layers.reverse.Perm troupe.layers ∧
    Run operate troupe ({} : Ledger) troupeActs (trouped troupe) ∧
    Run operate (troupe.withLayers troupe.layers.reverse) ({} : Ledger) troupeActs
      (trouped (troupe.withLayers troupe.layers.reverse)) ∧
    (trouped troupe).stage.drawn = ["Body/Base", "Arm/Up", "Arm/Down", "Leg/Bent"] ∧
    (trouped (troupe.withLayers troupe.layers.reverse)).stage.drawn =
      ["Body/Base", "Leg/Bent", "Arm/Down", "Arm/Up"] ∧
    (trouped (troupe.withLayers troupe.layers.reverse)).visibility = (trouped troupe).visibility := by
  have distinct : (troupe.layers.map (·.id)).Nodup := by decide
  have turned : troupe.layers.reverse.Perm troupe.layers := List.reverse_perm _
  have run (m : Model) : Run operate m ({} : Ledger) troupeActs (trouped m) :=
    .foldl_start operate m ({} : Ledger) troupeActs
  have hidden := layer_order_is_hidden distinct turned (run troupe) (run _)
  exact ⟨distinct, turned, run _, run _, by cbv, by cbv, hidden.2.1⟩

end Player

end Portrait
