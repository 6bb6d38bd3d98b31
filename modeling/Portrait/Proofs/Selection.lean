import Portrait.Proofs.Command
import Portrait.Proofs.Visibility

/-! A selection is made of simpler commands: the group is hidden, and then the layer is shown if there is
one of its name. -/

namespace Portrait

def idsInGroup (layers : List Layer) (group : String) : List String :=
  (layers.filter (·.group = group)).map (·.id)

theorem mem_idsInGroup {layers : List Layer} {group id : String} :
    id ∈ idsInGroup layers group ↔ ∃ l ∈ layers, l.group = group ∧ l.id = id := by
  simp [idsInGroup, and_assoc]

theorem Layer.id_eq {l : Layer} {group : String} (h : l.hasConventionalId = true)
    (hgroup : l.group = group) : l.id = group ++ "/" ++ l.name :=
  hgroup ▸ of_decide_eq_true h

theorem spelled_mem_idsInGroup {layers : List Layer} {group name : String}
    (hids : ∀ l ∈ layers, l.group = group → l.hasConventionalId = true) :
    group ++ "/" ++ name ∈ idsInGroup layers group ↔
      ∃ l ∈ layers, l.group = group ∧ l.name = name := by
  rw [mem_idsInGroup]
  refine exists_congr fun l => and_congr_right fun hl => and_congr_right fun hgroup => ?_
  rw [Layer.id_eq (hids l hl hgroup) hgroup, String.append_right_inj]

namespace Command

variable {layers : List Layer} {group : String}

theorem effects_clear (layers : List Layer) (group : String) :
    (Command.mk group "" .hide).effects layers = (idsInGroup layers group).map fun id => (id, false) := by
  simp [effects, idsInGroup]

theorem effects_select (hids : ∀ l ∈ layers, l.group = group → l.hasConventionalId = true)
    (name : String) : (Command.mk group name .select).effects layers =
      (idsInGroup layers group).map fun id => (id, decide (id = group ++ "/" ++ name)) := by
  rw [effects, idsInGroup, List.map_map]
  apply List.map_congr_left
  intro l hl
  obtain ⟨hl, hgroup⟩ : l ∈ layers ∧ l.group = group := by simpa using hl
  simp [Layer.id_eq (hids l hl hgroup) hgroup]

end Command

namespace Visibility

variable {layers : List Layer} {group : String}

theorem apply_of_group (v : Visibility) (hgroup : group ≠ "") (name : String) (op : Operator) :
    v.apply layers ⟨group, name, op⟩ = v.insertAll ((Command.mk group name op).effects layers) :=
  if_neg (by simpa [Command.isNoop] using hgroup)

theorem get?_apply_reveal (v : Visibility) (hgroup : group ≠ "") (name id : String) :
    (v.apply layers ⟨group, name, .reveal⟩).get? id =
      if id = group ++ "/" ++ name then some true else v.get? id := by
  rw [apply_of_group v hgroup]
  exact SortedMap.get?_insert ..

theorem get?_apply_clear (v : Visibility) (hgroup : group ≠ "") (id : String) :
    (v.apply layers ⟨group, "", .hide⟩).get? id =
      if id ∈ idsInGroup layers group then some false else v.get? id := by
  rw [apply_of_group v hgroup, Command.effects_clear, SortedMap.get?_insertAll_tabulate]

theorem get?_apply_select (v : Visibility) (hgroup : group ≠ "")
    (hids : ∀ l ∈ layers, l.group = group → l.hasConventionalId = true) (name id : String) :
    (v.apply layers ⟨group, name, .select⟩).get? id =
      if id ∈ idsInGroup layers group then some (decide (id = group ++ "/" ++ name))
      else v.get? id := by
  rw [apply_of_group v hgroup, Command.effects_select hids, SortedMap.get?_insertAll_tabulate]

theorem apply_select_of_mem (v : Visibility) (hgroup : group ≠ "")
    (hids : ∀ l ∈ layers, l.group = group → l.hasConventionalId = true) {name : String}
    (hname : ∃ l ∈ layers, l.group = group ∧ l.name = name) :
    v.apply layers ⟨group, name, .select⟩ =
      (v.apply layers ⟨group, "", .hide⟩).apply layers ⟨group, name, .reveal⟩ := by
  apply SortedMap.ext_get?
  intro id
  rw [get?_apply_select v hgroup hids, get?_apply_reveal _ hgroup, get?_apply_clear v hgroup]
  by_cases hid : id = group ++ "/" ++ name
  · subst hid
    simp [(spelled_mem_idsInGroup hids).mpr hname]
  · simp [hid]

theorem apply_select_of_not_mem (v : Visibility) (hgroup : group ≠ "")
    (hids : ∀ l ∈ layers, l.group = group → l.hasConventionalId = true) {name : String}
    (hname : ¬ ∃ l ∈ layers, l.group = group ∧ l.name = name) :
    v.apply layers ⟨group, name, .select⟩ = v.apply layers ⟨group, "", .hide⟩ := by
  apply SortedMap.ext_get?
  intro id
  rw [get?_apply_select v hgroup hids, get?_apply_clear v hgroup]
  by_cases hid : id = group ++ "/" ++ name
  · subst hid
    simp [mt (spelled_mem_idsInGroup hids).mp hname]
  · simp [hid]

/-- In the midst of any commands a selection may be replaced: by hiding its group and showing the layer, if
the group has one of the name, and by hiding the group otherwise. -/
theorem selection_clears_and_reveals {layers : List Layer} {group : String} (hgroup : group ≠ "")
    (hfree : FreeOfOperators group)
    (hids : ∀ l ∈ layers, l.group = group → l.hasConventionalId = true)
    (name : String) (before after : List String) (v : Visibility) :
    ((∃ l ∈ layers, l.group = group ∧ l.name = name) →
      v.applyAll layers (before ++ [group ++ ">" ++ name] ++ after) =
        v.applyAll layers (before ++ [group ++ "-", group ++ "+" ++ name] ++ after)) ∧
    ((¬ ∃ l ∈ layers, l.group = group ∧ l.name = name) →
      v.applyAll layers (before ++ [group ++ ">" ++ name] ++ after) =
        v.applyAll layers (before ++ [group ++ "-"] ++ after)) := by
  have hselect : Command.parse (group ++ ">" ++ name) = ⟨group, name, .select⟩ :=
    Command.parse_toString (c := ⟨group, name, .select⟩) hfree
  have hreveal : Command.parse (group ++ "+" ++ name) = ⟨group, name, .reveal⟩ :=
    Command.parse_toString (c := ⟨group, name, .reveal⟩) hfree
  have hclear : Command.parse (group ++ "-") = ⟨group, "", .hide⟩ := by
    rw [← String.append_empty (s := group ++ "-")]
    exact Command.parse_toString (c := ⟨group, "", .hide⟩) hfree
  simp only [applyAll_append, applyAll_cons, applyAll_nil, hselect, hreveal, hclear]
  constructor
  · intro hname
    rw [apply_select_of_mem _ hgroup hids hname]
  · intro hname
    rw [apply_select_of_not_mem _ hgroup hids hname]

def wardrobe : List Layer :=
  [.conventional "Arm" "Up", .conventional "Arm" "", .conventional "Arm" "Up",
    { id := "Arm/Up", group := "Sleeve", name := "Long" }]

theorem selection_clears_and_reveals_wardrobe :
    "Arm" ≠ "" ∧ FreeOfOperators "Arm" ∧
    (∀ l ∈ wardrobe, l.group = "Arm" → l.hasConventionalId = true) ∧
    (∃ l ∈ wardrobe, l.group = "Arm" ∧ l.name = "Up") ∧
    (∅ : Visibility).applyAll wardrobe ["Arm+", "Arm>Up", "Sleeve-"] =
      (∅ : Visibility).applyAll wardrobe ["Arm+", "Arm-", "Arm+Up", "Sleeve-"] ∧
    (¬ ∃ l ∈ wardrobe, l.group = "Arm" ∧ l.name = "Down>") ∧
    (∅ : Visibility).applyAll wardrobe ["Arm+", "Arm>Down>", "Sleeve-"] =
      (∅ : Visibility).applyAll wardrobe ["Arm+", "Arm-", "Sleeve-"] := by
  have hids : ∀ l ∈ wardrobe, l.group = "Arm" → l.hasConventionalId = true := by decide
  have up : ∃ l ∈ wardrobe, l.group = "Arm" ∧ l.name = "Up" := by decide
  have down : ¬ ∃ l ∈ wardrobe, l.group = "Arm" ∧ l.name = "Down>" := by decide
  have replaces := selection_clears_and_reveals (by decide) (by decide) hids
  exact ⟨by decide, by decide, hids, up, (replaces "Up" ["Arm+"] ["Sleeve-"] ∅).1 up, down,
    (replaces "Down>" ["Arm+"] ["Sleeve-"] ∅).2 down⟩

end Visibility

end Portrait
