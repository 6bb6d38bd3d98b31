import Mathlib
import Portrait.Diagnostic.Finding
import Portrait.Proofs.Pose.Cycle

/-! What the analysis of a model finds, place by place.  The findings are listed in the order of the places
that they are about, one for each place where something is wrong, and nothing else is found. -/

namespace Portrait

inductive LayerCheck
  | repetition
  | spelling

inductive Place
  | layer (index : Nat) (check : LayerCheck)
  | defaultPose (index : Nat)
  | baseLayer (index : Nat)
  | item (pose : String) (index : Nat)
  | pose (name : String)

namespace Place

def level : Place → Severity
  | .layer _ .repetition | .defaultPose _ => .error
  | .layer _ .spelling | .baseLayer _ | .item .. => .warn
  | .pose _ => .info

def part : Place → Nat
  | .layer .. => 0
  | .defaultPose _ => 1
  | .baseLayer _ => 2
  | .item .. => 3
  | .pose _ => 4

inductive Before : Place → Place → Prop
  | part {a b : Place} : a.part < b.part → Before a b
  | layer : i < j → Before (.layer i check) (.layer j check')
  | check : Before (.layer i .repetition) (.layer i .spelling)
  | defaultPose : i < j → Before (.defaultPose i) (.defaultPose j)
  | baseLayer : i < j → Before (.baseLayer i) (.baseLayer j)
  | item : i < j → Before (.item p i) (.item p j)
  | itemOf : p < q → Before (.item p i) (.item q j)
  | pose : p < q → Before (.pose p) (.pose q)

theorem Before.irrefl {a : Place} : ¬ a.Before a := by
  intro h
  cases h with
  | part hlt | layer hlt | defaultPose hlt | baseLayer hlt | item hlt => exact Nat.lt_irrefl _ hlt
  | itemOf hlt | pose hlt => exact String.lt_irrefl _ hlt

end Place

def FirstAt (names : List String) (name : String) (i : Nat) : Prop :=
  names[i]? = some name ∧ ∀ j, j < i → names[j]? ≠ some name

theorem Command.targetsLayer_iff {c : Command} :
    c.targetsLayer = true ↔ c.op = .reveal ∨ c.op = .hide ∧ c.name ≠ "" := by
  cases hop : c.op <;> simp [targetsLayer, isGroupClear, hop]

namespace Model

/-- What is wrong with a command that is written somewhere.  One thing is reported: a text that is no
command, or else a group without layers, or else an id that is no layer's. -/
inductive Faults (m : Model) (site : Site) (raw : String) : Finding → Prop
  | unreadable : (Command.parse raw).group = "" → Faults m site raw (.unreadable site raw)
  | unknownGroup : (Command.parse raw).group ≠ "" →
      (∀ l ∈ m.layers, l.group ≠ (Command.parse raw).group) →
      Faults m site raw (.unknownGroup site raw)
  | unknownLayer : (Command.parse raw).group ≠ "" → l ∈ m.layers → l.group = (Command.parse raw).group →
      (Command.parse raw).op = .reveal ∨ (Command.parse raw).op = .hide ∧ (Command.parse raw).name ≠ "" →
      (∀ l ∈ m.layers, l.id ≠ (Command.parse raw).group ++ "/" ++ (Command.parse raw).name) →
      Faults m site raw (.unknownLayer site raw)

inductive Reports (m : Model) : Place → Finding → Prop
  | repetition : m.layers[i]? = some l → FirstAt (m.layers.map (·.id)) l.id first → first < i →
      Reports m (.layer i .repetition) (.duplicateId i l.id first)
  | spelling : m.layers[i]? = some l → l.id ≠ l.group ++ "/" ++ l.name →
      Reports m (.layer i .spelling) (.unconventionalId i l)
  | defaultPose : m.defaultPoses[i]? = some pose → m.hasPose pose = false →
      Reports m (.defaultPose i) (.undefinedDefault i pose)
  | baseLayer : m.baseLayers[i]? = some raw → m.Faults .baseLayers raw f → Reports m (.baseLayer i) f
  | item : (m.poses.items pose)[i]? = some raw → m.hasPose raw = false → m.Faults (.pose pose) raw f →
      Reports m (.item pose i) f
  | cycle : Relation.TransGen m.poses.Refers pose pose → Reports m (.pose pose) (.cyclicPose pose)

end Model

/-! ### Lists in the order of places -/

/-- The list has a finding for each place that the relation tells of, in the order of the places. -/
def ListedBy (fs : List Finding) (P : Place → Finding → Prop) : Prop :=
  ∃ placed : List (Place × Finding), placed.map (·.2) = fs ∧
    placed.Pairwise (fun x y => x.1.Before y.1) ∧ ∀ x, x ∈ placed ↔ P x.1 x.2

namespace ListedBy

variable {fs gs : List Finding} {P Q : Place → Finding → Prop} {place : Place} {f : Finding}

theorem congr (h : ListedBy fs P) (hPQ : ∀ a f, P a f ↔ Q a f) : ListedBy fs Q := by
  obtain ⟨placed, hfs, horder, hmem⟩ := h
  exact ⟨placed, hfs, horder, fun x => (hmem x).trans (hPQ x.1 x.2)⟩

theorem nil (h : ∀ a f, ¬ P a f) : ListedBy [] P :=
  ⟨[], rfl, .nil, fun x => by simp [h]⟩

theorem singleton (h : ∀ a g, P a g ↔ a = place ∧ g = f) : ListedBy [f] P :=
  ⟨[(place, f)], rfl, List.pairwise_singleton .., fun x => by rw [List.mem_singleton, h, Prod.ext_iff]⟩

theorem append (hfs : ListedBy fs P) (hgs : ListedBy gs Q)
    (hbefore : ∀ a f b g, P a f → Q b g → a.Before b) : ListedBy (fs ++ gs) fun a f => P a f ∨ Q a f := by
  obtain ⟨xs, rfl, hxs, hP⟩ := hfs
  obtain ⟨ys, rfl, hys, hQ⟩ := hgs
  refine ⟨xs ++ ys, List.map_append, List.pairwise_append.mpr ⟨hxs, hys, ?_⟩, fun x => ?_⟩
  · intro x hx y hy
    exact hbefore _ _ _ _ ((hP x).mp hx) ((hQ y).mp hy)
  · rw [List.mem_append, hP, hQ]

theorem flatMap {α : Type} {R : α → α → Prop} {xs : List α} {found : α → List Finding}
    {P : α → Place → Finding → Prop} (hxs : xs.Pairwise R) (hfound : ∀ x ∈ xs, ListedBy (found x) (P x))
    (hbefore : ∀ x y, R x y → ∀ a f b g, P x a f → P y b g → a.Before b) :
    ListedBy (xs.flatMap found) fun a f => ∃ x ∈ xs, P x a f := by
  induction xs with
  | nil => exact nil (by simp)
  | cons x xs ih =>
    obtain ⟨hx, hxs⟩ := List.pairwise_cons.mp hxs
    obtain ⟨hfirst, hrest⟩ := List.forall_mem_cons.mp hfound
    rw [List.flatMap_cons]
    refine (hfirst.append (ih hxs hrest) ?_).congr fun a f => by simp
    rintro a f b g ha ⟨y, hy, hb⟩
    exact hbefore x y (hx y hy) a f b g ha hb

theorem flatMap_zipIdx {α : Type} {xs : List α} {found : α × Nat → List Finding}
    {P : Nat → α → Place → Finding → Prop}
    (hfound : ∀ i x, xs[i]? = some x → ListedBy (found (x, i)) (P i x))
    (hbefore : ∀ i j x y, i < j → ∀ a f b g, P i x a f → P j y b g → a.Before b) :
    ListedBy (xs.zipIdx.flatMap found) fun a f => ∃ i x, xs[i]? = some x ∧ P i x a f := by
  have hplaces : xs.zipIdx.Pairwise fun x y => x.2 < y.2 := by
    rw [← List.pairwise_map (f := Prod.snd), List.zipIdx_map_snd]
    exact List.pairwise_lt_range'
  refine (flatMap (P := fun x => P x.2 x.1) hplaces ?_ ?_).congr fun a f => ?_
  · exact fun x hx => hfound x.2 x.1 (List.mem_zipIdx_iff_getElem?.mp hx)
  · exact fun x y hlt => hbefore x.2 y.2 x.1 y.1 hlt
  · simp only [Prod.exists, List.mem_zipIdx_iff_getElem?]
    exact exists_comm

end ListedBy

namespace FirstAt

variable {names : List String} {name : String} {i j : Nat}

theorem eq (h : FirstAt names name i) (h' : FirstAt names name j) : i = j := by
  rcases Nat.lt_trichotomy i j with hij | hij | hij
  · exact absurd h.1 (h'.2 i hij)
  · exact hij
  · exact absurd h'.1 (h.2 j hij)

end FirstAt

namespace Model

variable {m : Model} {site : Site} {raw pose : String} {l : Layer} {i : Nat} {place : Place}
  {fs gs : List Finding} {f : Finding}

/-! ### The findings at one place -/

theorem firstAt_firstIndex (hl : l ∈ m.layers) :
    FirstAt (m.layers.map (·.id)) l.id (m.firstIndex l.id) := by
  have hlt : m.firstIndex l.id < m.layers.length :=
    List.findIdx_lt_length_of_exists ⟨l, hl, decide_eq_true rfl⟩
  constructor
  · have hid : m.layers[m.firstIndex l.id].id = l.id :=
      of_decide_eq_true (List.findIdx_getElem (w := hlt))
    rw [List.getElem?_map, List.getElem?_eq_getElem hlt, Option.map_some, hid]
  · intro j hj hid
    have hne := List.not_of_lt_findIdx hj
    rw [List.getElem?_map, List.getElem?_eq_getElem (Nat.lt_trans hj hlt), Option.map_some,
      Option.some.injEq] at hid
    simp [hid] at hne

theorem mem_commandFindings : f ∈ m.commandFindings site raw ↔ m.Faults site raw f := by
  have hnoop : (Command.parse raw).isNoop = true ↔ (Command.parse raw).group = "" := by
    simp [Command.isNoop]
  have hgroup : m.layers.any (·.group = (Command.parse raw).group) = true ↔
      ∃ l ∈ m.layers, l.group = (Command.parse raw).group := by simp
  have hlayer : m.layers.any (·.id = (Command.parse raw).layerId) = true ↔
      ∃ l ∈ m.layers, l.id = (Command.parse raw).layerId := by simp
  simp only [commandFindings, Bool.not_eq_true', Bool.and_eq_true, ← Bool.not_eq_true, hnoop, hgroup,
    hlayer, Command.targetsLayer_iff]
  constructor
  · intro hf
    split_ifs at hf with hn hg hl
    · exact List.mem_singleton.mp hf ▸ .unreadable hn
    · obtain ⟨l, hmem, heq⟩ := hg
      exact List.mem_singleton.mp hf ▸
        .unknownLayer hn hmem heq hl.1 fun l hmem hid => hl.2 ⟨l, hmem, hid⟩
    · cases hf
    · exact List.mem_singleton.mp hf ▸ .unknownGroup hn fun l hl heq => hg ⟨l, hl, heq⟩
  · rintro (hn | ⟨hn, hg⟩ | ⟨hn, hl, hg, hop, hid⟩)
    · rw [if_pos hn, List.mem_singleton]
    · rw [if_neg hn, if_pos fun ⟨l, hl, heq⟩ => hg l hl heq, List.mem_singleton]
    · rw [if_neg hn, if_neg (not_not.mpr ⟨_, hl, hg⟩), if_pos ⟨hop, fun ⟨l, hl, heq⟩ => hid l hl heq⟩,
        List.mem_singleton]

theorem length_commandFindings_le (m : Model) (site : Site) (raw : String) :
    (m.commandFindings site raw).length ≤ 1 := by
  simp only [commandFindings]
  split_ifs <;> simp

theorem listedBy_place (hlength : fs.length ≤ 1) (hfs : ∀ f, f ∈ fs ↔ m.Reports place f) :
    ListedBy fs fun a f => m.Reports a f ∧ a = place := by
  match fs with
  | [] =>
    apply ListedBy.nil
    rintro a f ⟨hf, rfl⟩
    exact absurd ((hfs f).mpr hf) List.not_mem_nil
  | [f] =>
    apply ListedBy.singleton
    intro a g
    rw [and_comm]
    apply and_congr_right
    rintro rfl
    rw [← hfs, List.mem_singleton]

theorem listedBy_optional {p : Prop} [Decidable p] (h : ∀ g, m.Reports place g ↔ p ∧ g = f) :
    ListedBy (if p then [f] else []) fun a g => m.Reports a g ∧ a = place := by
  apply listedBy_place
  · split <;> simp
  · intro g
    rw [h]
    split <;> simp_all

theorem listedBy_repetition (hl : m.layers[i]? = some l) :
    ListedBy (if m.firstIndex l.id < i then [.duplicateId i l.id (m.firstIndex l.id)] else [])
      fun a f => m.Reports a f ∧ a = .layer i .repetition := by
  have hfirst := firstAt_firstIndex (List.mem_of_getElem? hl)
  refine listedBy_optional fun g => ⟨fun hg => ?_, ?_⟩
  · cases hg with
    | repetition hl' hfirst' hlt =>
      obtain rfl := Option.some.inj (hl.symm.trans hl')
      obtain rfl := hfirst.eq hfirst'
      exact ⟨hlt, rfl⟩
  · rintro ⟨hlt, rfl⟩
    exact .repetition hl hfirst hlt

theorem listedBy_spelling (hl : m.layers[i]? = some l) :
    ListedBy (if l.hasConventionalId then [] else [.unconventionalId i l])
      fun a f => m.Reports a f ∧ a = .layer i .spelling := by
  rw [← ite_not]
  refine listedBy_optional fun g => ⟨fun hg => ?_, ?_⟩
  · cases hg with
    | spelling hl' hid =>
      obtain rfl := Option.some.inj (hl.symm.trans hl')
      exact ⟨mt of_decide_eq_true hid, rfl⟩
  · rintro ⟨hid, rfl⟩
    exact .spelling hl (mt decide_eq_true hid)

theorem listedBy_defaultPose (hpose : m.defaultPoses[i]? = some pose) :
    ListedBy (if m.hasPose pose then [] else [.undefinedDefault i pose])
      fun a f => m.Reports a f ∧ a = .defaultPose i := by
  rw [← ite_not]
  refine listedBy_optional fun g => ⟨fun hg => ?_, ?_⟩
  · cases hg with
    | defaultPose hpose' hdef =>
      obtain rfl := Option.some.inj (hpose.symm.trans hpose')
      exact ⟨by simp [hdef], rfl⟩
  · rintro ⟨hdef, rfl⟩
    exact .defaultPose hpose (by simpa using hdef)

theorem listedBy_baseLayer (hraw : m.baseLayers[i]? = some raw) :
    ListedBy (m.commandFindings .baseLayers raw) fun a f => m.Reports a f ∧ a = .baseLayer i := by
  apply listedBy_place (length_commandFindings_le ..)
  intro f
  rw [mem_commandFindings]
  constructor
  · exact .baseLayer hraw
  · intro hf
    cases hf with
    | baseLayer hraw' hfault =>
      obtain rfl := Option.some.inj (hraw.symm.trans hraw')
      exact hfault

theorem listedBy_item (hraw : (m.poses.items pose)[i]? = some raw) :
    ListedBy (if m.hasPose raw then [] else m.commandFindings (.pose pose) raw)
      fun a f => m.Reports a f ∧ a = .item pose i := by
  apply listedBy_place
  · split
    · exact Nat.zero_le 1
    · exact length_commandFindings_le ..
  · intro f
    constructor
    · intro hf
      split at hf
      · cases hf
      · rename_i hdef
        exact .item hraw (by simpa using hdef) (mem_commandFindings.mp hf)
    · intro hf
      cases hf with
      | item hraw' hdef hfault =>
        obtain rfl := Option.some.inj (hraw.symm.trans hraw')
        simpa [hdef] using mem_commandFindings.mpr hfault

/-! ### The findings of one part -/

theorem flatMap_zipIdx_fst {α β : Type} (found : α → List β) (xs : List α) :
    (xs.zipIdx.flatMap fun x => found x.1) = xs.flatMap found := by
  rw [← List.flatMap_map, List.zipIdx_map_fst]

theorem flatMap_filter {α β : Type} (keep : α → Bool) (found : α → List β) (xs : List α) :
    (xs.filter keep).flatMap found = xs.flatMap fun x => if keep x then found x else [] := by
  induction xs with
  | nil => rfl
  | cons x xs ih =>
    rw [List.filter_cons, List.flatMap_cons, ← ih]
    split <;> simp

theorem listedBy_positions {α : Type} {xs : List α} {found : α × Nat → List Finding} {spot : Nat → Place}
    (hfound : ∀ i x, xs[i]? = some x → ListedBy (found (x, i)) fun a f => m.Reports a f ∧ a = spot i)
    (horder : ∀ {i j}, i < j → (spot i).Before (spot j))
    (hspot : ∀ i f, m.Reports (spot i) f → ∃ x, xs[i]? = some x) :
    ListedBy (xs.zipIdx.flatMap found) fun a f => m.Reports a f ∧ ∃ i, a = spot i := by
  refine (ListedBy.flatMap_zipIdx (P := fun i _ a f => m.Reports a f ∧ a = spot i) hfound
    ?order).congr fun a f => ⟨?_, ?_⟩
  case order =>
    rintro i j _ _ hlt _ _ _ _ ⟨-, rfl⟩ ⟨-, rfl⟩
    exact horder hlt
  · rintro ⟨i, x, -, hf, rfl⟩
    exact ⟨hf, i, rfl⟩
  · rintro ⟨hf, i, rfl⟩
    obtain ⟨x, hx⟩ := hspot i f hf
    exact ⟨i, x, hx, hf, rfl⟩

theorem listedBy_layers (m : Model) :
    ListedBy m.layerFindings fun a f => m.Reports a f ∧ a.part = 0 := by
  refine (ListedBy.flatMap_zipIdx (P := fun i _ a f => (m.Reports a f ∧ a = .layer i .repetition) ∨
    (m.Reports a f ∧ a = .layer i .spelling)) ?layer ?order).congr fun a f => ?parts
  case layer =>
    intro i l hl
    apply (listedBy_repetition hl).append (listedBy_spelling hl)
    rintro _ _ _ _ ⟨-, rfl⟩ ⟨-, rfl⟩
    exact .check
  case order =>
    rintro i j _ _ hlt _ _ _ _ (⟨-, rfl⟩ | ⟨-, rfl⟩) (⟨-, rfl⟩ | ⟨-, rfl⟩) <;> exact .layer hlt
  case parts =>
    constructor
    · rintro ⟨i, l, hl, ⟨hf, rfl⟩ | ⟨hf, rfl⟩⟩ <;> exact ⟨hf, rfl⟩
    · rintro ⟨hf, hpart⟩
      cases hf with
      | repetition hl hfirst hlt => exact ⟨_, _, hl, .inl ⟨.repetition hl hfirst hlt, rfl⟩⟩
      | spelling hl hid => exact ⟨_, _, hl, .inr ⟨.spelling hl hid, rfl⟩⟩
      | _ => cases hpart

theorem listedBy_defaultPoses (m : Model) :
    ListedBy m.defaultFindings fun a f => m.Reports a f ∧ a.part = 1 := by
  refine (listedBy_positions (fun i pose => listedBy_defaultPose) .defaultPose ?spot).congr
    fun a f => and_congr_right fun _ => ?part
  case spot =>
    rintro i f ⟨⟩
    exact ⟨_, ‹_›⟩
  case part =>
    cases a <;> simp [Place.part]

theorem listedBy_baseLayers (m : Model) :
    ListedBy (m.baseLayers.flatMap (m.commandFindings .baseLayers))
      fun a f => m.Reports a f ∧ a.part = 2 := by
  rw [← flatMap_zipIdx_fst]
  refine (listedBy_positions (fun i raw => listedBy_baseLayer) .baseLayer ?spot).congr
    fun a f => and_congr_right fun _ => ?part
  case spot =>
    rintro i f ⟨⟩
    exact ⟨_, ‹_›⟩
  case part =>
    cases a <;> simp [Place.part]

theorem listedBy_items (m : Model) (pose : String) :
    ListedBy (m.poseFindings pose) fun a f => m.Reports a f ∧ ∃ i, a = .item pose i := by
  have hitems : m.poseFindings pose = (m.poses.items pose).zipIdx.flatMap fun x =>
      if m.hasPose x.1 then [] else m.commandFindings (.pose pose) x.1 := by
    rw [poseFindings, PoseTable.literals, flatMap_filter, ← flatMap_zipIdx_fst]
    congr 1
    funext x
    cases hdef : m.hasPose x.1 <;> simp_all [hasPose]
  rw [hitems]
  apply listedBy_positions (fun i raw => listedBy_item) .item
  rintro i f ⟨⟩
  exact ⟨_, ‹_›⟩

theorem listedBy_poses (m : Model) :
    ListedBy (m.poseNames.flatMap m.poseFindings) fun a f => m.Reports a f ∧ a.part = 3 := by
  refine (ListedBy.flatMap (P := fun pose a f => m.Reports a f ∧ ∃ i, a = .item pose i)
    m.poses.pairwise_keys (fun pose _ => m.listedBy_items pose) ?order).congr fun a f => ?parts
  case order =>
    rintro p q hlt _ _ _ _ ⟨-, i, rfl⟩ ⟨-, j, rfl⟩
    exact .itemOf hlt
  case parts =>
    constructor
    · rintro ⟨pose, -, hf, i, rfl⟩
      exact ⟨hf, rfl⟩
    · rintro ⟨hf, hpart⟩
      cases hf with
      | item hraw hdef hfault =>
        have hpose := PoseTable.contains_of_mem_items (List.mem_of_getElem? hraw)
        exact ⟨_, SortedMap.contains_iff_mem_keys.mp hpose, .item hraw hdef hfault, _, rfl⟩
      | _ => cases hpart

theorem listedBy_cycles (m : Model) :
    ListedBy (m.poses.cyclicPoses.map .cyclicPose) fun a f => m.Reports a f ∧ a.part = 4 := by
  rw [List.map_eq_flatMap]
  refine (ListedBy.flatMap (P := fun pose a f => m.Reports a f ∧ a = .pose pose)
    (m.poses.pairwise_keys.filter _) ?cycle ?order).congr fun a f => ?parts
  case cycle =>
    intro pose hpose
    refine listedBy_place (by simp) fun f => ?_
    rw [List.mem_singleton]
    constructor
    · rintro rfl
      exact .cycle (PoseTable.mem_cyclicPoses.mp hpose)
    · intro hf
      cases hf
      rfl
  case order =>
    rintro p q hlt _ _ _ _ ⟨-, rfl⟩ ⟨-, rfl⟩
    exact .pose hlt
  case parts =>
    constructor
    · rintro ⟨pose, -, hf, rfl⟩
      exact ⟨hf, rfl⟩
    · rintro ⟨hf, hpart⟩
      cases hf with
      | cycle hcycle => exact ⟨_, PoseTable.mem_cyclicPoses.mpr hcycle, .cycle hcycle, rfl⟩
      | _ => cases hpart

/-! ### The whole analysis -/

theorem listedBy_append {k : Nat} (hfs : ListedBy fs fun a f => m.Reports a f ∧ a.part < k)
    (hgs : ListedBy gs fun a f => m.Reports a f ∧ a.part = k) :
    ListedBy (fs ++ gs) fun a f => m.Reports a f ∧ a.part < k + 1 := by
  refine (hfs.append hgs ?_).congr fun a f => ?_
  · rintro a _ b _ ⟨-, ha⟩ ⟨-, hb⟩
    exact .part (hb ▸ ha)
  · rw [← and_or_left, Nat.lt_succ_iff_lt_or_eq]

theorem listedBy_findings (m : Model) : ListedBy m.findings m.Reports := by
  have first : ListedBy m.layerFindings fun a f => m.Reports a f ∧ a.part < 1 := by
    simpa only [Nat.lt_one_iff] using m.listedBy_layers
  have listed := listedBy_append (listedBy_append (listedBy_append (listedBy_append first
    m.listedBy_defaultPoses) m.listedBy_baseLayers) m.listedBy_poses) m.listedBy_cycles
  refine listed.congr fun a f => and_iff_left_of_imp fun _ => ?_
  cases a <;> simp [Place.part]

theorem Faults.level_eq (h : m.Faults site raw f) : f.level = .warn := by
  cases h <;> rfl

theorem Reports.level_eq (h : m.Reports place f) : f.level = place.level := by
  cases h with
  | baseLayer _ hfault | item _ _ hfault => exact hfault.level_eq
  | _ => rfl

theorem exists_faults_iff : (∃ f, m.Faults site raw f) ↔ (Command.parse raw).group = "" ∨
    (∀ l ∈ m.layers, l.group ≠ (Command.parse raw).group) ∨
    ((Command.parse raw).op = .reveal ∨ (Command.parse raw).op = .hide ∧ (Command.parse raw).name ≠ "") ∧
      ∀ l ∈ m.layers, l.id ≠ (Command.parse raw).group ++ "/" ++ (Command.parse raw).name := by
  constructor
  · rintro ⟨f, hn | ⟨hn, hg⟩ | ⟨hn, hl, hg, hop, hid⟩⟩
    · exact .inl hn
    · exact .inr (.inl hg)
    · exact .inr (.inr ⟨hop, hid⟩)
  · intro h
    by_cases hn : (Command.parse raw).group = ""
    · exact ⟨_, .unreadable hn⟩
    by_cases hg : ∀ l ∈ m.layers, l.group ≠ (Command.parse raw).group
    · exact ⟨_, .unknownGroup hn hg⟩
    obtain ⟨hop, hid⟩ := (h.resolve_left hn).resolve_left hg
    push Not at hg
    obtain ⟨l, hl, hgroup⟩ := hg
    exact ⟨_, .unknownLayer hn hl hgroup hop hid⟩

def findingsInOrder (m : Model) (names : List String) : List Finding :=
  m.layerFindings ++ m.defaultFindings ++ m.baseLayers.flatMap (m.commandFindings .baseLayers) ++
    (names.mergeSort (· ≤ ·)).flatMap m.poseFindings ++
    (sortedNames (names.filter m.poses.onCycle)).map .cyclicPose

theorem mergeSort_eq_of_perm {names sorted : List String} (hsorted : sorted.Pairwise (· < ·))
    (h : names.Perm sorted) : names.mergeSort (· ≤ ·) = sorted := by
  have trans : ∀ a b c : String, decide (a ≤ b) = true → decide (b ≤ c) = true →
      decide (a ≤ c) = true := by
    simpa using fun _ _ _ => String.le_trans
  have total : ∀ a b : String, (decide (a ≤ b) || decide (b ≤ a)) = true := by
    simpa using String.le_total
  have hmerge : (names.mergeSort (· ≤ ·)).Pairwise (· ≤ ·) := by
    simpa only [decide_eq_true_eq] using List.pairwise_mergeSort trans total names
  exact ((List.mergeSort_perm ..).trans h).eq_of_pairwise (fun _ _ _ _ => String.le_antisymm) hmerge
    (hsorted.imp fun hlt => String.not_lt.mp (String.lt_asymm hlt))

theorem findingsInOrder_eq {names : List String} (h : names.Perm m.poseNames) :
    m.findingsInOrder names = m.findings := by
  have hcyclic : sortedNames (names.filter m.poses.onCycle) = m.poses.cyclicPoses :=
    sortedNames_eq (m.poses.pairwise_keys.filter _) fun p => (h.filter _).mem_iff
  rw [findingsInOrder, mergeSort_eq_of_perm m.poses.pairwise_keys h, hcyclic, findings]
  rfl

/-- The analysis finds what is wrong at each place, and nothing else.  It lists one finding a place, in the
order of the places, whatever the order in which the poses of the table are met.  Repeated ids and unknown
default poses are errors, and a repeated id is said to be known from its first layer on.  Ids that are not
spelled by group and name, and commands that are at fault, are warnings.  Poses on a cycle of references
are mentioned. -/
theorem analysis_is_exact (m : Model) :
    (∃ placed : List (Place × Finding), m.analyse.entries = placed.map (·.2.diagnostic) ∧
      placed.Pairwise (fun x y => x.1.Before y.1) ∧ (placed.map (·.1)).Nodup ∧
      ∀ x, x ∈ placed ↔ m.Reports x.1 x.2) ∧
    (∀ place f, m.Reports place f → f.diagnostic.level = place.level) ∧
    (∀ i f, m.Reports (.layer i .repetition) f ↔ ∃ (l : Layer) (first : Nat), m.layers[i]? = some l ∧
      FirstAt (m.layers.map (·.id)) l.id first ∧ first < i ∧ f = .duplicateId i l.id first ∧
      f.diagnostic.detail = some ("首次出现于 layers[" ++ toString first ++ "]")) ∧
    (∀ site raw, (∃ f, m.Faults site raw f) ↔ (Command.parse raw).group = "" ∨
      (∀ l ∈ m.layers, l.group ≠ (Command.parse raw).group) ∨
      ((Command.parse raw).op = .reveal ∨
        (Command.parse raw).op = .hide ∧ (Command.parse raw).name ≠ "") ∧
          ∀ l ∈ m.layers, l.id ≠ (Command.parse raw).group ++ "/" ++ (Command.parse raw).name) ∧
    ∀ names, names.Perm m.poseNames → m.findingsInOrder names = m.findings := by
  refine ⟨?placed, fun place f h => h.level_eq, fun i f => ⟨?_, ?_⟩, fun site raw => exists_faults_iff,
    fun names h => findingsInOrder_eq h⟩
  case placed =>
    obtain ⟨placed, hfs, horder, hmem⟩ := m.listedBy_findings
    refine ⟨placed, ?_, horder, ?_, hmem⟩
    · rw [analyse, ← hfs, List.map_map]
      rfl
    · apply List.pairwise_map.mpr
      apply horder.imp
      intro x y hbefore heq
      exact Place.Before.irrefl (heq ▸ hbefore)
  · intro hf
    cases hf with
    | repetition hl hfirst hlt => exact ⟨_, _, hl, hfirst, hlt, rfl, rfl⟩
  · rintro ⟨l, first, hl, hfirst, hlt, rfl, -⟩
    exact .repetition hl hfirst hlt

end Model

end Portrait
