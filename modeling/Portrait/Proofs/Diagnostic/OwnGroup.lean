import Mathlib
import Portrait.Proofs.Diagnostic.Clean
import Portrait.Proofs.LastWriter

/-! What a command of a clean model leaves alone.  It keeps to the layers of its own group, but for a
layer whose id it spells with the slash after the group at another place. -/

namespace Portrait

/-- A group and a name spell one text with a shorter group and a longer name: what follows in the longer
group stands in front of the longer name. -/
def Resplit (group name group' name' : String) : Prop :=
  ∃ middle, group' = group ++ "/" ++ middle ∧ name = middle ++ "/" ++ name'

theorem Resplit.slash_mem {group name group' name' : String} (h : Resplit group name group' name') :
    '/' ∈ name.toList := by
  obtain ⟨middle, -, rfl⟩ := h
  simp

theorem eq_or_resplit_of_append {group name group' name' rest : List Char} (h : group' = group ++ rest)
    (hrest : '/' :: name = rest ++ '/' :: name') :
    group = group' ∨ Resplit (.ofList group) (.ofList name) (.ofList group') (.ofList name') := by
  cases rest with
  | nil => exact .inl (by rw [h, List.append_nil])
  | cons c middle =>
    obtain ⟨rfl, rfl⟩ := List.cons.inj hrest
    exact .inr ⟨.ofList middle, by simp [h, ← String.toList_inj], by simp [← String.toList_inj]⟩

theorem eq_or_resplit {group name group' name' : String}
    (h : group ++ "/" ++ name = group' ++ "/" ++ name') :
    group = group' ∨ Resplit group name group' name' ∨ Resplit group' name' group name := by
  have hlist : group.toList ++ '/' :: name.toList = group'.toList ++ '/' :: name'.toList := by
    simpa using congrArg String.toList h
  rcases List.append_eq_append_iff.mp hlist with ⟨rest, hgroup, hname⟩ | ⟨rest, hgroup, hname⟩
  · rcases eq_or_resplit_of_append hgroup hname with heq | hresplit
    · exact .inl (String.toList_inj.mp heq)
    · exact .inr (.inl (by simpa using hresplit))
  · rcases eq_or_resplit_of_append hgroup hname with heq | hresplit
    · exact .inl (String.toList_inj.mp heq.symm)
    · exact .inr (.inr (by simpa using hresplit))

namespace Command

def Spells (c : Command) (l : Layer) : Prop := c.targetsLayer = true ∧ c.layerId = l.id

variable {layers : List Layer} {c : Command} {l : Layer}

theorem writes_foreign_iff (hnodup : (layers.map (·.id)).Nodup) (hl : l ∈ layers)
    (hgroup : l.group ≠ c.group) : c.Writes layers l.id ↔ c.isNoop = false ∧ c.Spells l := by
  rw [writes_iff, mem_keys_effects, Spells]
  apply and_congr_right
  intro _
  split
  · rename_i ht
    simp [ht, eq_comm]
  · rename_i ht
    refine iff_of_false ?_ fun h => ht h.1
    rintro ⟨l', hl', hgroup', hid⟩
    exact hgroup (List.inj_on_of_nodup_map hnodup hl' hl hid ▸ hgroup')

theorem Spells.resplit (h : c.Spells l) (hl : l.hasConventionalId = true) (hgroup : l.group ≠ c.group) :
    Resplit c.group c.name l.group l.name ∨ Resplit l.group l.name c.group c.name := by
  have hid : c.group ++ "/" ++ c.name = l.group ++ "/" ++ l.name := h.2.trans (of_decide_eq_true hl)
  exact (eq_or_resplit hid).resolve_left fun heq => hgroup heq.symm

theorem Decides.eq_reveal {id : String} {visible : Bool} (h : c.Decides layers id visible)
    (ht : c.targetsLayer = true) : visible = decide (c.op = .reveal) := by
  cases hop : c.op <;> simp_all [Decides, targetsLayer]

end Command

namespace Model

def HasCommand (m : Model) (raw : String) : Prop :=
  raw ∈ m.baseLayers ∨ ∃ pose ∈ m.poseNames, raw ∈ m.poses.literals pose

variable {m : Model} {raw : String} {l : Layer}

theorem Clean.applies (h : m.Clean) (hraw : m.HasCommand raw) : (Command.parse raw).Applies m.layers := by
  rcases hraw with hraw | ⟨pose, hpose, hraw⟩
  · exact h.base raw hraw
  · exact h.literals pose hpose raw hraw

/-- In a model without errors and warnings a written command leaves a layer of another group alone, unless
it shows or hides one layer and spells the id of that one.  Then one of the two groups continues the other
one behind a slash, so that the name behind the shorter group has a slash too: a command keeps to its
group if neither its name nor that of the layer has one. -/
theorem command_spares_other_groups (hm : m.analyse.atLeast .warn = []) (hraw : m.HasCommand raw)
    (hl : l ∈ m.layers) (hgroup : l.group ≠ (Command.parse raw).group) (v : Visibility) :
    (¬ (Command.parse raw).Spells l → (v.applyAll m.layers [raw]).get? l.id = v.get? l.id) ∧
    ((Command.parse raw).Spells l →
      (v.applyAll m.layers [raw]).get? l.id = some (decide ((Command.parse raw).op = .reveal)) ∧
      (Resplit (Command.parse raw).group (Command.parse raw).name l.group l.name ∨
        Resplit l.group l.name (Command.parse raw).group (Command.parse raw).name)) ∧
    ('/' ∉ (Command.parse raw).name.toList → '/' ∉ l.name.toList →
      (v.applyAll m.layers [raw]).get? l.id = v.get? l.id) := by
  have clean : m.Clean := atLeast_warn_eq_nil_iff_clean.mp hm
  have hwrites := Command.writes_foreign_iff clean.nodup hl hgroup
  rw [Visibility.applyAll_cons, Visibility.applyAll_nil]
  have spared (h : ¬ (Command.parse raw).Spells l) :
      (v.apply m.layers (Command.parse raw)).get? l.id = v.get? l.id :=
    Visibility.get?_apply_of_not_writes v fun hw => h (hwrites.mp hw).2
  refine ⟨spared, fun h => ⟨?written, h.resplit (clean.conventional l hl) hgroup⟩, fun hname hlname => ?plain⟩
  case written =>
    obtain ⟨visible, hdecides, hget⟩ :=
      Visibility.exists_get?_apply (hwrites.mpr ⟨(clean.applies hraw).not_noop, h⟩)
    rw [hget, hdecides.eq_reveal h.1]
  case plain =>
    refine spared fun h => ?_
    rcases h.resplit (clean.conventional l hl) hgroup with hresplit | hresplit
    · exact hname hresplit.slash_mem
    · exact hlname hresplit.slash_mem

def nested : Model where
  assets := { layers := [.conventional "Face" "Eye/Wide", .conventional "Face/Eye" "Shut"] }
  controller := {
    baseLayers := ["Face/Eye+Wide", "Face/Eye>Shut"]
    poses := .ofList [("Wake", ["Face-Eye/Shut"])] }

theorem nested_silent : nested.analyse.atLeast .warn = [] :=
  atLeast_warn_eq_nil_iff_clean.mpr ⟨by decide, by decide, by decide, by decide, by decide⟩

theorem command_spares_other_groups_nested :
    nested.HasCommand "Face/Eye>Shut" ∧
    (∀ v : Visibility, (v.applyAll nested.layers ["Face/Eye>Shut"]).get? "Face/Eye/Wide" =
      v.get? "Face/Eye/Wide") ∧
    nested.HasCommand "Face-Eye/Shut" ∧
    ∀ v : Visibility, (v.applyAll nested.layers ["Face-Eye/Shut"]).get? "Face/Eye/Shut" = some false := by
  have base : nested.HasCommand "Face/Eye>Shut" := .inl (by decide)
  have literal : nested.HasCommand "Face-Eye/Shut" := .inr ⟨"Wake", by decide, by decide⟩
  refine ⟨base, fun v => ?_, literal, fun v => ?_⟩
  · exact (command_spares_other_groups (l := .conventional "Face" "Eye/Wide") nested_silent base
      (by decide) (by decide) v).1 fun h => absurd h.1 (by decide)
  · exact ((command_spares_other_groups (l := .conventional "Face/Eye" "Shut") nested_silent literal
      (by decide) (by decide) v).2.1 ⟨by decide, by decide⟩).1

/-- A silent analysis does not keep every command in its group. -/
theorem exists_command_outside_group :
    ¬ ∀ (m : Model) (raw : String) (v : Visibility) (l : Layer), m.analyse.atLeast .warn = [] →
      m.HasCommand raw → l ∈ m.layers → l.group ≠ (Command.parse raw).group →
        (v.applyAll m.layers [raw]).get? l.id = v.get? l.id := by
  intro h
  have kept := h nested "Face/Eye+Wide" ∅ (.conventional "Face" "Eye/Wide") nested_silent
    (.inl (by decide)) (by decide) (by decide)
  exact absurd kept (by decide)

end Model

end Portrait
