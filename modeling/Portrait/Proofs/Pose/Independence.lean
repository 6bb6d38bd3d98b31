import Mathlib
import Portrait.Diagnostic.Finding
import Portrait.Proofs.Pose.Groups
import Portrait.Proofs.Visibility

/-! Poses with disjoint groups may be applied in any order: an id names one group only, and each pose
writes ids of its own groups. -/

namespace Portrait

def NamesGroup (id group : String) : Prop :=
  ∃ name : String, '/' ∉ name.toList ∧ id = group ++ "/" ++ name

theorem NamesGroup.unique {id g g' : String} (h : NamesGroup id g) (h' : NamesGroup id g') : g = g' := by
  obtain ⟨name, hname, rfl⟩ := h
  obtain ⟨name', hname', heq⟩ := h'
  have hrev : name.toList.reverse ++ '/' :: g.toList.reverse =
      name'.toList.reverse ++ '/' :: g'.toList.reverse := by
    simpa using congrArg (List.reverse ∘ String.toList) heq
  have hbefore (n : String) (hn : '/' ∉ n.toList) (rest : List Char) :
      (n.toList.reverse ++ '/' :: rest).dropWhile (· ≠ '/') = '/' :: rest := by
    rw [List.dropWhile_append_of_pos]
    · simp
    · intro c hc
      simpa using fun hslash : c = '/' => hn (hslash ▸ List.mem_reverse.mp hc)
  have hdrop := congrArg (List.dropWhile (· ≠ '/')) hrev
  rw [hbefore name hname, hbefore name' hname', List.cons.injEq, List.reverse_inj] at hdrop
  exact String.toList_inj.mp hdrop.2

namespace Layer

def NamesItsGroup (l : Layer) : Prop := l.hasConventionalId = true ∧ '/' ∉ l.name.toList

theorem NamesItsGroup.namesGroup {l : Layer} (h : l.NamesItsGroup) : NamesGroup l.id l.group :=
  ⟨l.name, h.2, of_decide_eq_true h.1⟩

end Layer

/-- The commands of a pose that set a single layer write a name without slash, and those that hide
one do so in a group that the pose takes hold of.  Commands without effect do not matter. -/
structure PoseTable.KeepsToGroups (t : PoseTable) (pose : String) : Prop where
  names : ∀ raw ∈ t.resolve pose, (Command.parse raw).isNoop = false →
    (Command.parse raw).targetsLayer = true → '/' ∉ (Command.parse raw).name.toList
  hides : ∀ raw ∈ t.resolve pose, (Command.parse raw).isNoop = false →
    (Command.parse raw).op = .hide → (Command.parse raw).name ≠ "" →
      (Command.parse raw).group ∈ t.affectedGroups pose

namespace Command

variable {layers : List Layer} {c : Command} {id : String}

theorem namesGroup_of_mem_effects (hlayers : ∀ l ∈ layers, l.NamesItsGroup)
    (hname : c.targetsLayer = true → '/' ∉ c.name.toList) (hid : id ∈ (c.effects layers).map (·.1)) :
    NamesGroup id c.group := by
  rw [mem_keys_effects] at hid
  split at hid
  · rename_i ht
    exact ⟨c.name, hname ht, hid⟩
  · obtain ⟨l, hl, hgroup, rfl⟩ := hid
    exact hgroup ▸ (hlayers l hl).namesGroup

end Command

namespace PoseTable

variable {layers : List Layer} {t : PoseTable} {pose a b id : String} {poses poses' : List String}

theorem KeepsToGroups.group_mem (h : t.KeepsToGroups pose) {raw : String} (hr : raw ∈ t.resolve pose)
    (hn : (Command.parse raw).isNoop = false) :
    (Command.parse raw).group ∈ t.affectedGroups pose := by
  cases hc : (Command.parse raw).claimsGroup with
  | true => exact mem_affectedGroups.mpr ⟨raw, hr, hn, hc, rfl⟩
  | false =>
    cases hop : (Command.parse raw).op with
    | reveal => simp [Command.claimsGroup, hop] at hc
    | hide => exact h.hides raw hr hn hop (by simpa [Command.claimsGroup, hop] using hc)
    | select => simp [Command.claimsGroup, hop] at hc

theorem KeepsToGroups.namesGroup (hlayers : ∀ l ∈ layers, l.NamesItsGroup) (h : t.KeepsToGroups pose)
    (hid : id ∈ (Visibility.writes layers (t.resolve pose)).map (·.1)) :
    ∃ g ∈ t.affectedGroups pose, NamesGroup id g := by
  obtain ⟨raw, hr, hn, hid⟩ := Visibility.mem_keys_writes.mp hid
  exact ⟨_, h.group_mem hr hn, Command.namesGroup_of_mem_effects hlayers (h.names raw hr hn) hid⟩

theorem disjoint_writes (hlayers : ∀ l ∈ layers, l.NamesItsGroup) (ha : t.KeepsToGroups a)
    (hb : t.KeepsToGroups b) (hab : (t.affectedGroups a).Disjoint (t.affectedGroups b)) :
    ((Visibility.writes layers (t.resolve a)).map (·.1)).Disjoint
      ((Visibility.writes layers (t.resolve b)).map (·.1)) := by
  intro id hida hidb
  obtain ⟨g, hg, hidg⟩ := ha.namesGroup hlayers hida
  obtain ⟨g', hg', hidg'⟩ := hb.namesGroup hlayers hidb
  exact hab hg (hidg.unique hidg' ▸ hg')

theorem foldl_applyAll_perm (hlayers : ∀ l ∈ layers, l.NamesItsGroup)
    (hposes : ∀ pose ∈ poses, t.KeepsToGroups pose) (hapart : t.Apart poses)
    (hperm : poses'.Perm poses) (v : Visibility) :
    poses'.foldl (fun v pose => v.applyAll layers (t.resolve pose)) v =
      poses.foldl (fun v pose => v.applyAll layers (t.resolve pose)) v := by
  refine (hperm.symm.foldl_eq' ?_ v).symm
  intro a ha b hb v
  by_cases hab : a = b
  · rw [hab]
  · simp only [Visibility.applyAll_eq_insertAll]
    exact v.insertAll_comm (disjoint_writes hlayers (hposes a ha) (hposes b hb) (hapart a ha b hb hab))

end PoseTable

namespace PlayerState

/-- Layers whose ids spell their groups, and poses that keep to groups which no two of them share: then
neither the map that they lead to nor the visibility of a state that they are active in depends on
their order. -/
theorem visibility_perm_active {m : Model} {poses poses' : List String}
    (hlayers : ∀ l ∈ m.layers, l.NamesItsGroup) (hposes : ∀ pose ∈ poses, m.poses.KeepsToGroups pose)
    (hapart : m.poses.Apart poses) (hperm : poses'.Perm poses) :
    (∀ v : Visibility, poses'.foldl (fun v pose => v.applyAll m.layers (m.poses.resolve pose)) v =
      poses.foldl (fun v pose => v.applyAll m.layers (m.poses.resolve pose)) v) ∧
    ∀ overrides, (PlayerState.mk poses' overrides).visibility m =
      (PlayerState.mk poses overrides).visibility m := by
  have order := PoseTable.foldl_applyAll_perm hlayers hposes hapart hperm
  refine ⟨order, fun overrides => ?_⟩
  simp only [visibility, order]

def crossing : Model where
  assets := { layers := [.conventional "Arm" "Up", .conventional "Arm" "Down",
    .conventional "Arm/Up" "Hand"] }
  controller := { poses := .ofList [("Lift", ["Arm>Up", "Arm-Down", "none"]),
    ("Turn", ["Wave", "Arm/Up+Hand"]), ("Wave", ["Arm/Up-", "Turn"])] }

theorem visibility_perm_active_crossing :
    (∀ l ∈ crossing.layers, l.NamesItsGroup) ∧
    (∀ pose ∈ ["Lift", "Turn"], crossing.poses.KeepsToGroups pose) ∧
    crossing.poses.Apart ["Lift", "Turn"] ∧ ["Turn", "Lift"].Perm ["Lift", "Turn"] ∧
    (PlayerState.mk ["Turn", "Lift"] ∅).visibility crossing =
      (PlayerState.mk ["Lift", "Turn"] ∅).visibility crossing := by
  have layers : ∀ l ∈ crossing.layers, l.NamesItsGroup := by
    unfold Layer.NamesItsGroup
    decide
  have lift : crossing.poses.resolve "Lift" = ["Arm>Up", "Arm-Down", "none"] := by cbv
  have turn : crossing.poses.resolve "Turn" = ["Arm/Up-", "Arm/Up+Hand"] := by cbv
  have liftGroups : crossing.poses.affectedGroups "Lift" = ["Arm"] := by cbv
  have keep : ∀ pose ∈ ["Lift", "Turn"], crossing.poses.KeepsToGroups pose := by
    intro pose hpose
    rcases List.mem_pair.mp hpose with rfl | rfl
    · exact ⟨by rw [lift]; decide, by rw [lift, liftGroups]; decide⟩
    · exact ⟨by rw [turn]; decide, by rw [turn]; decide⟩
  have apart : crossing.poses.Apart ["Lift", "Turn"] := PoseTable.apart_iff_all.mpr (by cbv)
  have perm : ["Turn", "Lift"].Perm ["Lift", "Turn"] := .swap ..
  exact ⟨layers, keep, apart, perm, (visibility_perm_active layers keep apart perm).2 ∅⟩

end PlayerState

end Portrait
