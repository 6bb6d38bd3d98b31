import Portrait.Proofs.Visibility

/-! Commands merged one after the other: for each id the last command that writes it decides, and no
other one. -/

namespace Portrait

def IsLast {α : Type} (p : α → Prop) (l : List α) (a : α) : Prop :=
  ∃ before after, l = before ++ a :: after ∧ p a ∧ ∀ b ∈ after, ¬ p b

theorem exists_isLast {α : Type} {p : α → Prop} {l : List α} {a : α} (ha : a ∈ l) (hp : p a) :
    ∃ b, IsLast p l b := by
  induction l generalizing a with
  | nil => cases ha
  | cons x l ih =>
    by_cases hl : ∃ y ∈ l, p y
    · obtain ⟨y, hy, hpy⟩ := hl
      obtain ⟨b, before, after, rfl, hb, hafter⟩ := ih hy hpy
      exact ⟨b, x :: before, after, rfl, hb, hafter⟩
    · have hnot : ∀ y ∈ l, ¬ p y := fun y hy hpy => hl ⟨y, hy, hpy⟩
      obtain rfl : a = x := (List.mem_cons.mp ha).resolve_right fun h => hnot a h hp
      exact ⟨a, [], l, rfl, hp, hnot⟩

theorem isLast_append_singleton_iff {α : Type} {p : α → Prop} {l : List α} {x a : α} :
    IsLast p (l ++ [x]) a ↔ (p x ∧ a = x) ∨ (¬ p x ∧ IsLast p l a) := by
  constructor
  · rintro ⟨before, after, heq, ha, hafter⟩
    rcases List.eq_nil_or_concat after with rfl | ⟨after, y, rfl⟩
    · obtain ⟨-, hx⟩ := List.append_inj' heq rfl
      obtain rfl := List.singleton_inj.mp hx
      exact .inl ⟨ha, rfl⟩
    · rw [List.concat_eq_append, ← List.cons_append, ← List.append_assoc] at heq
      obtain ⟨rfl, hx⟩ := List.append_inj' heq rfl
      obtain rfl := List.singleton_inj.mp hx
      rw [List.concat_eq_append, List.forall_mem_append, List.forall_mem_singleton] at hafter
      exact .inr ⟨hafter.2, before, after, rfl, ha, hafter.1⟩
  · rintro (⟨hx, rfl⟩ | ⟨hx, before, after, rfl, ha, hafter⟩)
    · exact ⟨l, [], rfl, hx, List.forall_mem_nil _⟩
    · refine ⟨before, after ++ [x], by simp, ha, ?_⟩
      exact List.forall_mem_append.mpr ⟨hafter, List.forall_mem_singleton.mpr hx⟩

namespace Command

/-- A command that has an effect writes the one id that its group and name spell, or, if it is about a
whole group, the ids of the layers in it. -/
inductive Writes (layers : List Layer) (c : Command) (id : String) : Prop
  | reveal : c.isNoop = false → c.op = .reveal → c.group ++ "/" ++ c.name = id → Writes layers c id
  | hide : c.isNoop = false → c.op = .hide → c.name ≠ "" → c.group ++ "/" ++ c.name = id →
      Writes layers c id
  | clear : c.isNoop = false → c.op = .hide → c.name = "" → l ∈ layers → l.group = c.group →
      l.id = id → Writes layers c id
  | select : c.isNoop = false → c.op = .select → l ∈ layers → l.group = c.group → l.id = id →
      Writes layers c id

/-- What a command that writes an id makes of it.  Where layers of the group share the id, a selection
goes by the last one of them. -/
def Decides (layers : List Layer) (c : Command) (id : String) (visible : Bool) : Prop :=
  match c.op with
  | .reveal => visible = true
  | .hide => visible = false
  | .select => ∃ l, IsLast (fun l => l.group = c.group ∧ l.id = id) layers l ∧
      (visible = true ↔ l.name = c.name)

variable {layers : List Layer} {c : Command} {id : String}

theorem writes_iff :
    c.Writes layers id ↔ c.isNoop = false ∧ id ∈ (c.effects layers).map (·.1) := by
  rw [mem_keys_effects]
  constructor
  · rintro (⟨hn, hop, rfl⟩ | ⟨hn, hop, hname, rfl⟩ | ⟨hn, hop, hname, hl, hg, rfl⟩ |
      ⟨hn, hop, hl, hg, rfl⟩)
    · simp [hn, targetsLayer, hop, layerId]
    · simp [hn, targetsLayer, hop, isGroupClear, hname, layerId]
    · simpa [hn, targetsLayer, hop, isGroupClear, hname] using ⟨_, hl, hg, rfl⟩
    · simpa [hn, targetsLayer, hop] using ⟨_, hl, hg, rfl⟩
  · rintro ⟨hn, h⟩
    cases hop : c.op with
    | reveal => exact .reveal hn hop (by simpa [targetsLayer, hop, layerId, eq_comm] using h)
    | hide =>
      by_cases hname : c.name = ""
      · obtain ⟨l, hl, hg, hid⟩ : ∃ l ∈ layers, l.group = c.group ∧ l.id = id := by
          simpa [targetsLayer, hop, isGroupClear, hname] using h
        exact .clear hn hop hname hl hg hid
      · have hid : id = c.layerId := by simpa [targetsLayer, hop, isGroupClear, hname] using h
        exact .hide hn hop hname hid.symm
    | select =>
      obtain ⟨l, hl, hg, hid⟩ : ∃ l ∈ layers, l.group = c.group ∧ l.id = id := by
        simpa [targetsLayer, hop] using h
      exact .select hn hop hl hg hid

theorem exists_entries_of_isLast {group : String} {l : Layer} (visible : Layer → Bool)
    (h : IsLast (fun l => l.group = group ∧ l.id = id) layers l) :
    ∃ before after, (layers.filter (·.group = group)).map (fun l => (l.id, visible l)) =
      before ++ (id, visible l) :: after ∧ id ∉ after.map (·.1) := by
  obtain ⟨before, after, rfl, ⟨hgroup, rfl⟩, hafter⟩ := h
  refine ⟨(before.filter (·.group = group)).map fun l => (l.id, visible l),
    (after.filter (·.group = group)).map fun l => (l.id, visible l), by simp [hgroup], ?_⟩
  intro hmem
  obtain ⟨l', hl', hid⟩ : ∃ l', (l' ∈ after ∧ l'.group = group) ∧ l'.id = l.id := by
    simpa using hmem
  exact hafter l' hl'.1 ⟨hl'.2, hid⟩

theorem Writes.exists_effects (h : c.Writes layers id) :
    ∃ before visible after, c.effects layers = before ++ (id, visible) :: after ∧
      id ∉ after.map (·.1) ∧ c.Decides layers id visible := by
  cases h with
  | reveal _ hop hid =>
    exact ⟨[], true, [], by simp [effects, hop, layerId, hid], by simp, by simp [Decides, hop]⟩
  | hide _ hop hname hid =>
    exact ⟨[], false, [], by simp [effects, hop, hname, layerId, hid], by simp,
      by simp [Decides, hop]⟩
  | clear _ hop hname hl hgroup hid =>
    obtain ⟨l, hlast⟩ := exists_isLast (p := fun l => l.group = c.group ∧ l.id = id) hl ⟨hgroup, hid⟩
    obtain ⟨before, after, heffects, hafter⟩ := exists_entries_of_isLast (fun _ => false) hlast
    exact ⟨before, false, after, by simpa [effects, hop, hname] using heffects, hafter,
      by simp [Decides, hop]⟩
  | select _ hop hl hgroup hid =>
    obtain ⟨l, hlast⟩ := exists_isLast (p := fun l => l.group = c.group ∧ l.id = id) hl ⟨hgroup, hid⟩
    obtain ⟨before, after, heffects, hafter⟩ :=
      exists_entries_of_isLast (fun l => decide (l.name = c.name)) hlast
    refine ⟨before, decide (l.name = c.name), after, by simpa [effects, hop] using heffects, hafter, ?_⟩
    simpa [Decides, hop] using ⟨l, hlast, Iff.rfl⟩

end Command

namespace Visibility

variable {layers : List Layer} {c : Command} {id : String} {commands : List String}

theorem get?_apply_of_not_writes (v : Visibility) (h : ¬ c.Writes layers id) :
    (v.apply layers c).get? id = v.get? id := by
  rw [apply]
  split
  · rfl
  · rename_i hn
    have hid : id ∉ (c.effects layers).map (·.1) := fun hid =>
      h (Command.writes_iff.mpr ⟨by simpa using hn, hid⟩)
    rw [SortedMap.get?_insertAll, SortedMap.lookup_eq_none_of_not_mem (by simpa using hid),
      Option.none_or]

theorem exists_get?_apply (h : c.Writes layers id) :
    ∃ visible, c.Decides layers id visible ∧
      ∀ v : Visibility, (v.apply layers c).get? id = some visible := by
  obtain ⟨before, visible, after, heffects, hafter, hdecides⟩ := h.exists_effects
  refine ⟨visible, hdecides, fun v => ?_⟩
  rw [apply, if_neg (by simp [(Command.writes_iff.mp h).1]), heffects,
    SortedMap.get?_insertAll_of_last hafter]

theorem get?_applyAll_of_not_writes (v : Visibility)
    (h : ∀ raw ∈ commands, ¬ (Command.parse raw).Writes layers id) :
    (v.applyAll layers commands).get? id = v.get? id := by
  induction commands generalizing v with
  | nil => rfl
  | cons raw commands ih =>
    obtain ⟨hraw, hcommands⟩ := List.forall_mem_cons.mp h
    rw [applyAll_cons, ih _ hcommands, get?_apply_of_not_writes v hraw]

theorem exists_get?_applyAll {last : String}
    (h : IsLast (fun raw => (Command.parse raw).Writes layers id) commands last) :
    ∃ visible, (Command.parse last).Decides layers id visible ∧
      ∀ v : Visibility, (v.applyAll layers commands).get? id = some visible := by
  obtain ⟨before, after, rfl, hwrites, hafter⟩ := h
  obtain ⟨visible, hdecides, hget⟩ := exists_get?_apply hwrites
  refine ⟨visible, hdecides, fun v => ?_⟩
  rw [applyAll_append, applyAll_cons, get?_applyAll_of_not_writes _ hafter, hget]

theorem contains_applyAll_iff_writes (v : Visibility) : (v.applyAll layers commands).contains id = true ↔
    v.contains id = true ∨ ∃ raw ∈ commands, (Command.parse raw).Writes layers id := by
  simp only [contains_applyAll, Command.writes_iff, or_comm]

/-- An id that no command writes keeps its entry, or stays without one.  Of the commands that write an
id the last one decides, whatever the map held and whatever the others are.  Entries are added for the
ids that are written, and for no others. -/
theorem last_writer_decides (layers : List Layer) (commands : List String) (v : Visibility)
    (id : String) :
    ((∀ raw ∈ commands, ¬ (Command.parse raw).Writes layers id) →
      (v.applyAll layers commands).get? id = v.get? id) ∧
    (∀ raw ∈ commands, (Command.parse raw).Writes layers id →
      ∃ last, IsLast (fun raw => (Command.parse raw).Writes layers id) commands last) ∧
    (∀ last, IsLast (fun raw => (Command.parse raw).Writes layers id) commands last →
      ∃ visible, (Command.parse last).Decides layers id visible ∧
        (v.applyAll layers commands).get? id = some visible) ∧
    ((v.applyAll layers commands).contains id = true ↔
      v.contains id = true ∨ ∃ raw ∈ commands, (Command.parse raw).Writes layers id) := by
  refine ⟨get?_applyAll_of_not_writes v, fun raw hraw hwrites => ?_, fun last hlast => ?_,
    contains_applyAll_iff_writes v⟩
  · exact exists_isLast (p := fun raw => (Command.parse raw).Writes layers id) hraw hwrites
  · obtain ⟨visible, hdecides, hget⟩ := exists_get?_applyAll hlast
    exact ⟨visible, hdecides, hget v⟩

/-- Two layers of one group share an id: the last one is not selected. -/
example : ((∅ : Visibility).applyAll
    [{ id := "hand", group := "Arm", name := "Up" }, { id := "hand", group := "Arm", name := "Down" }]
    ["hand", "Arm>Down", "Leg-", "Arm>Up"]).get? "hand" = some false := by
  cbv

end Visibility

end Portrait
