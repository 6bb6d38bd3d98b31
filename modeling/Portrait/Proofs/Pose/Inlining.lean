import Mathlib
import Portrait.Proofs.Pose.Cycle

/-! Poses written out in full, every pose wherever it occurs.  This ends if no cycle is met, and then an
expansion is what is left when each pose stays only where it comes first. -/

namespace Portrait

inductive Inlining
  | nil
  | command (command : String) (rest : Inlining)
  | block (pose : String) (body rest : Inlining)
  deriving DecidableEq

namespace Inlining

def commands : Inlining → List String
  | .nil => []
  | .command c rest => c :: rest.commands
  | .block _ body rest => body.commands ++ rest.commands

def poses : Inlining → List String
  | .nil => []
  | .command _ rest => rest.poses
  | .block pose body rest => pose :: (body.poses ++ rest.poses)

/-- What is left without the blocks at some places.  The place of a block is the number of blocks that
begin before it; the first block here is at the place given. -/
def without (gone : Nat → Bool) (place : Nat) : Inlining → Inlining
  | .nil => .nil
  | .command c rest => .command c (rest.without gone place)
  | .block pose body rest =>
    let rest := rest.without gone (place + 1 + body.poses.length)
    if gone place then rest else .block pose (body.without gone (place + 1)) rest

def repeats (names : List String) (place : Nat) : Bool :=
  (names.take place).any fun name => names[place]? = some name

def firsts (f : Inlining) : Inlining := f.without (repeats f.poses) 0

theorem repeats_append_iff {before after : List String} {name : String} :
    repeats (before ++ name :: after) before.length = true ↔ name ∈ before := by
  simp [repeats, eq_comm (a := name)]

theorem repeats_of_nodup {names : List String} (h : names.Nodup) (place : Nat) :
    repeats names place = false := by
  rw [repeats, List.any_eq_false]
  intro name hname heq
  have hdrop : name ∈ names.drop place := by
    rw [List.mem_iff_getElem?]
    exact ⟨0, by simpa using heq⟩
  exact List.disjoint_take_drop h (Nat.le_refl place) hname hdrop

theorem without_of_none {gone : Nat → Bool} (h : ∀ place, gone place = false) (f : Inlining)
    (place : Nat) : f.without gone place = f := by
  induction f generalizing place with
  | nil => rfl
  | command c rest ih => rw [without, ih]
  | block pose body rest ihb ih => simp [without, h, ihb, ih]

theorem firsts_of_nodup {f : Inlining} (h : f.poses.Nodup) : f.firsts = f :=
  without_of_none (repeats_of_nodup h) f 0

end Inlining

namespace PoseTable

/-- `Inlines t items f`: a finite run of the recursion that writes out every pose at each occurrence. -/
inductive Inlines (t : PoseTable) : List String → Inlining → Prop
  | nil : Inlines t [] .nil
  | literal : t.contains c = false → Inlines t rest f → Inlines t (c :: rest) (.command c f)
  | pose : t.contains q = true → Inlines t (t.items q) body → Inlines t rest f →
      Inlines t (q :: rest) (.block q body f)

def InlinesPose (t : PoseTable) (pose : String) (f : Inlining) : Prop :=
  t.Inlines ([pose].filter t.contains) f

variable {t : PoseTable} {xs V W : List String} {p q r c : String} {f f' body : Inlining}

namespace Inlines

theorem unique (h : t.Inlines xs f) (h' : t.Inlines xs f') : f = f' := by
  induction h generalizing f' with
  | nil => cases h'; rfl
  | literal hc _ ih =>
    cases h' with
    | literal _ h' => rw [ih h']
    | pose hq _ _ => simp [hc] at hq
  | pose hq _ _ ihb ih =>
    cases h' with
    | literal hc _ => simp [hq] at hc
    | pose _ hb h' => rw [ihb hb, ih h']

theorem mem_poses_of_mem (h : t.Inlines xs f) (hp : p ∈ xs) (ht : t.contains p = true) :
    p ∈ f.poses := by
  induction h with
  | nil => cases hp
  | literal hc _ ih =>
    rcases List.mem_cons.mp hp with rfl | hp
    · simp [hc] at ht
    · exact ih hp
  | pose _ _ _ _ ih =>
    rcases List.mem_cons.mp hp with rfl | hp
    · exact List.mem_cons_self
    · exact List.mem_cons_of_mem _ (List.mem_append_right _ (ih hp))

theorem exists_body (h : t.Inlines xs f) (hq : q ∈ f.poses) :
    ∃ body, t.Inlines (t.items q) body ∧ body.poses ⊆ f.poses ∧ body.poses.length < f.poses.length := by
  induction h with
  | nil => cases hq
  | literal _ _ ih => exact ih hq
  | @pose x body _ rest _ hb _ ihb ih =>
    simp only [Inlining.poses, List.mem_cons, List.mem_append] at hq
    rcases hq with rfl | hq | hq
    · refine ⟨body, hb, ?_, by simp [Inlining.poses]⟩
      exact fun _ hx => List.mem_cons_of_mem _ (List.mem_append_left _ hx)
    · obtain ⟨inner, hi, hsub, hlt⟩ := ihb hq
      refine ⟨inner, hi, ?_, by simp [Inlining.poses]; omega⟩
      exact fun _ hx => List.mem_cons_of_mem _ (List.mem_append_left _ (hsub hx))
    · obtain ⟨inner, hi, hsub, hlt⟩ := ih hq
      refine ⟨inner, hi, ?_, by simp [Inlining.poses]; omega⟩
      exact fun _ hx => List.mem_cons_of_mem _ (List.mem_append_right _ (hsub hx))

theorem mem_poses_of_mem_of_reaches (h : t.Inlines xs f) (hq : q ∈ f.poses) (hr : t.Reaches [] q r) :
    r ∈ f.poses := by
  induction hr with
  | refl _ _ => exact hq
  | step _ hr _ ih =>
    obtain ⟨hitem, ht⟩ := mem_references.mp hr
    obtain ⟨body, hb, hsub, -⟩ := h.exists_body ih
    exact hsub (hb.mem_poses_of_mem hitem ht)

theorem mem_poses_of_reaches (h : t.Inlines xs f) (hp : p ∈ xs) (hr : t.Reaches [] p q) :
    q ∈ f.poses :=
  h.mem_poses_of_mem_of_reaches (h.mem_poses_of_mem hp hr.contains_left) hr

theorem reaches_of_mem_poses (h : t.Inlines xs f) (hq : q ∈ f.poses) :
    ∃ p ∈ xs, t.Reaches [] p q := by
  induction h with
  | nil => cases hq
  | literal _ _ ih =>
    obtain ⟨p, hp, hr⟩ := ih hq
    exact ⟨p, List.mem_cons_of_mem _ hp, hr⟩
  | @pose x _ _ _ hx _ _ ihb ih =>
    simp only [Inlining.poses, List.mem_cons, List.mem_append] at hq
    rcases hq with rfl | hq | hq
    · exact ⟨q, List.mem_cons_self, .refl hx List.not_mem_nil⟩
    · obtain ⟨p, hp, hr⟩ := ihb hq
      exact ⟨x, List.mem_cons_self,
        .head hx List.not_mem_nil (mem_references.mpr ⟨hp, hr.contains_left⟩) hr⟩
    · obtain ⟨p, hp, hr⟩ := ih hq
      exact ⟨p, List.mem_cons_of_mem _ hp, hr⟩

theorem mem_poses_iff (h : t.Inlines xs f) : q ∈ f.poses ↔ ∃ p ∈ xs, t.Reaches [] p q :=
  ⟨h.reaches_of_mem_poses, fun ⟨_, hp, hr⟩ => h.mem_poses_of_reaches hp hr⟩

theorem mem_commands_iff (h : t.Inlines xs f) : c ∈ f.commands ↔
    c ∈ xs ∧ t.contains c = false ∨ ∃ q ∈ f.poses, c ∈ t.literals q := by
  induction h with
  | nil => simp [Inlining.commands, Inlining.poses]
  | @literal x _ _ hx _ ih =>
    simp only [Inlining.commands, Inlining.poses, List.mem_cons, ih, or_and_right, or_assoc]
    exact or_congr_left ⟨fun hc => ⟨hc, hc ▸ hx⟩, And.left⟩
  | @pose x _ _ _ hx _ _ ihb ih =>
    have hnot : ¬ (c = x ∧ t.contains c = false) := by
      rintro ⟨rfl, hc⟩
      simp [hx] at hc
    simp only [Inlining.commands, Inlining.poses, List.mem_append, List.mem_cons, ihb, ih,
      or_and_right, exists_or, exists_eq_left, ← mem_literals, hnot, false_or]
    simp only [or_assoc, or_left_comm]

/-- No block lies in a block of the same pose: that one would hold as many blocks as itself. -/
theorem not_mem_body (h : t.Inlines (t.items q) body) : q ∉ body.poses := by
  intro hq
  obtain ⟨inner, hinner, -, hlt⟩ := h.exists_body hq
  rw [hinner.unique h] at hlt
  exact Nat.lt_irrefl _ hlt

theorem not_transGen_refers_self (h : t.Inlines xs f) (hq : q ∈ f.poses) :
    ¬ Relation.TransGen t.Refers q q := by
  intro hcycle
  obtain ⟨body, hb, -, -⟩ := h.exists_body hq
  obtain ⟨r, hr, hrest⟩ := Relation.TransGen.head'_iff.mp hcycle
  exact hb.not_mem_body (hb.mem_poses_of_reaches hr.2.1 (reaches_nil_iff.mpr ⟨hr.2.2, hrest⟩))

theorem mem_block_iff (hx : t.contains p = true) (hb : t.Inlines (t.items p) body) :
    q = p ∨ q ∈ body.poses ↔ t.Reaches [] p q := by
  have hblock : t.Inlines [p] (.block p body .nil) := .pose hx hb .nil
  simpa [Inlining.poses] using hblock.mem_poses_iff (q := q)

end Inlines

def Settled (t : PoseTable) (V : List String) (f : Inlining) : Prop :=
  ∀ q ∈ f.poses, q ∈ V → ∀ r, t.Reaches [] q r → r ∈ V

namespace Settled

theorem within (h : t.Settled V (.block p body f)) (hb : t.Inlines (t.items p) body) :
    t.Settled (p :: V) body := by
  intro q hq hv r hr
  have hne : q ≠ p := fun heq => hb.not_mem_body (heq ▸ hq)
  have hqV : q ∈ V := (List.mem_cons.mp hv).resolve_left hne
  exact List.mem_cons_of_mem _ (h q (by simp [Inlining.poses, hq]) hqV r hr)

theorem after (h : t.Settled V (.block p body f)) (hW : ∀ q, q ∈ W ↔ q ∈ V ∨ t.Reaches [] p q) :
    t.Settled W f := by
  intro q hq hv r hr
  rw [hW] at hv ⊢
  rcases hv with hv | hv
  · exact .inl (h q (by simp [Inlining.poses, hq]) hv r hr)
  · exact .inr (hv.trans hr)

end Settled

/-- An expansion passes over a block if and only if a block of its pose began before.  The visited poses
are those of all blocks before, also of the blocks that lie in one passed over: its pose is settled. -/
theorem Inlines.exists_expands (h : t.Inlines xs f) {names before after : List String}
    (hnames : names = before ++ (f.poses ++ after)) (hvisited : ∀ q, q ∈ V ↔ q ∈ before)
    (hsettled : t.Settled V f) :
    ∃ W, t.Expands V xs (f.without (Inlining.repeats names) before.length).commands W ∧
      ∀ q, q ∈ W ↔ q ∈ before ++ f.poses := by
  induction h generalizing V before after with
  | nil => exact ⟨V, .nil, by simpa [Inlining.poses] using hvisited⟩
  | literal hc _ ih =>
    obtain ⟨W, he, hW⟩ := ih hnames hvisited hsettled
    exact ⟨W, .literal hc he, hW⟩
  | @pose x body rest f hx hb _ ihb ih =>
    have hrest : names = (before ++ x :: body.poses) ++ (f.poses ++ after) := by
      simp [hnames, Inlining.poses]
    have hlength : (before ++ x :: body.poses).length = before.length + 1 + body.poses.length := by
      simp only [List.length_append, List.length_cons]
      omega
    have hrepeats : Inlining.repeats names before.length = true ↔ x ∈ V := by
      rw [hvisited, hrest, List.append_assoc, List.cons_append, Inlining.repeats_append_iff]
    have hblock : ∀ q, q ∈ before ++ x :: body.poses ↔ q ∈ V ∨ t.Reaches [] x q := by
      simp [hvisited, ← mem_block_iff hx hb]
    by_cases hV : x ∈ V
    -- A block passed over adds no visited pose, though blocks in it may be counted: `x` is settled.
    · have hall : ∀ q, q ∈ V ↔ q ∈ V ∨ t.Reaches [] x q := fun q =>
        ⟨.inl, fun hq => hq.elim id (hsettled x List.mem_cons_self hV q)⟩
      obtain ⟨W, he, hW⟩ := ih hrest (fun q => (hall q).trans (hblock q).symm) (hsettled.after hall)
      refine ⟨W, ?_, by simpa [Inlining.poses] using hW⟩
      rw [Inlining.without, if_pos (hrepeats.mpr hV), ← hlength]
      exact .seen hx hV he
    · have hbody : names = (before ++ [x]) ++ (body.poses ++ (f.poses ++ after)) := by simp [hrest]
      obtain ⟨V', hi, hV'⟩ := ihb (V := x :: V) hbody (by simp [hvisited, or_comm]) (hsettled.within hb)
      have hvisited' : ∀ q, q ∈ V' ↔ q ∈ before ++ x :: body.poses := by simpa using hV'
      obtain ⟨W, he, hW⟩ := ih hrest hvisited'
        (hsettled.after fun q => (hvisited' q).trans (hblock q))
      refine ⟨W, ?_, by simpa [Inlining.poses] using hW⟩
      rw [Inlining.without, if_neg (mt hrepeats.mp hV), ← hlength]
      simp only [List.length_append, List.length_singleton] at hi
      exact .pose hx hV hi he

/-- Writing out ends if no pose on a cycle is met: the poses that are being written out lead to the
items, so none of these is one of them, and there are fewer and fewer other poses. -/
theorem exists_inlines (above xs : List String)
    (hacyclic : ∀ x ∈ xs, ∀ q, t.Reaches [] x q → ¬ Relation.TransGen t.Refers q q)
    (habove : ∀ a ∈ above, ∀ x ∈ xs, t.contains x = true → Relation.TransGen t.Refers a x) :
    ∃ f, t.Inlines xs f := by
  match xs with
  | [] => exact ⟨.nil, .nil⟩
  | x :: xs =>
    obtain ⟨hx, hxs⟩ := List.forall_mem_cons.mp hacyclic
    obtain ⟨f, hf⟩ := exists_inlines above xs hxs fun a ha y hy =>
      habove a ha y (List.mem_cons_of_mem _ hy)
    cases ht : t.contains x with
    | false => exact ⟨.command x f, .literal ht hf⟩
    | true =>
      have hnew : x ∉ above := fun ha =>
        hx x (.refl ht List.not_mem_nil) (habove x ha x List.mem_cons_self ht)
      have hfewer := unvisited_cons_lt (SortedMap.contains_iff_mem_keys.mp ht) hnew
      obtain ⟨body, hbody⟩ := exists_inlines (x :: above) (t.items x)
        (fun y hy q hr => hx q
          (.head ht List.not_mem_nil (mem_references.mpr ⟨hy, hr.contains_left⟩) hr))
        (by
          intro a ha y hy hty
          rcases List.mem_cons.mp ha with rfl | ha
          · exact .single ⟨ht, hy, hty⟩
          · exact (habove a ha x List.mem_cons_self ht).tail ⟨ht, hy, hty⟩)
      exact ⟨.block x body f, .pose ht hbody hf⟩
termination_by (t.unvisited above, xs.length)

namespace InlinesPose

theorem mem_poses_iff (h : t.InlinesPose p f) : q ∈ f.poses ↔ t.Reaches [] p q := by
  rw [Inlines.mem_poses_iff h]
  constructor
  · rintro ⟨x, hx, hr⟩
    exact List.mem_singleton.mp (List.mem_filter.mp hx).1 ▸ hr
  · exact fun hr => ⟨p, by simp [hr.contains_left], hr⟩

theorem exists_iff : (∃ f, t.InlinesPose p f) ↔ ∀ q ∈ t.cyclicPoses, ¬ t.Reaches [] p q := by
  constructor
  · rintro ⟨f, hf⟩ q hq hr
    exact Inlines.not_transGen_refers_self hf (hf.mem_poses_iff.mpr hr) (mem_cyclicPoses.mp hq)
  · intro hacyclic
    refine exists_inlines [] _ (fun x hx q hr hcycle => ?_) (List.forall_mem_nil _)
    obtain rfl := List.mem_singleton.mp (List.mem_filter.mp hx).1
    exact hacyclic q (mem_cyclicPoses.mpr hcycle) hr

theorem resolve_eq (h : t.InlinesPose p f) : t.resolve p = f.firsts.commands := by
  have hnames : f.poses = [] ++ (f.poses ++ []) := by simp
  obtain ⟨W, he, -⟩ := Inlines.exists_expands (V := []) h hnames (fun _ => Iff.rfl)
    fun _ _ hv => absurd hv List.not_mem_nil
  cases hp : t.contains p with
  | false =>
    have hf : f = .nil := by
      rw [InlinesPose, List.filter_cons_of_neg (by simp [hp])] at h
      exact h.unique .nil
    rw [hf]
    exact expandPose_eq_nil (.inl hp)
  | true =>
    rw [List.filter_cons_of_pos hp, List.filter_nil] at he
    rw [resolve, expandPose, if_pos hp, expand_of_expands he]
    rfl

theorem mem_resolve_iff (h : t.InlinesPose p f) : c ∈ t.resolve p ↔ c ∈ f.commands := by
  have hliteral : ¬ (c ∈ [p].filter t.contains ∧ t.contains c = false) := by
    rintro ⟨hc, hnot⟩
    simp [hnot] at hc
  rw [mem_resolve, Inlines.mem_commands_iff h]
  simp only [hliteral, false_or, h.mem_poses_iff]

end InlinesPose

/-- A pose can be written out in full if and only if it leads to no cyclic pose.  There is one way to do
so then, and the expansion is what is left of it with only the first block of each pose: the commands
are the same but for how often they come, and just the same if no pose has two blocks. -/
theorem resolve_eq_firsts (t : PoseTable) (p : String) :
    ((∃ full, t.InlinesPose p full) ↔ ∀ q ∈ t.cyclicPoses, ¬ t.Reaches [] p q) ∧
    ∀ full, t.InlinesPose p full →
      (∀ other, t.InlinesPose p other → other = full) ∧
      t.resolve p = full.firsts.commands ∧
      (∀ c, c ∈ t.resolve p ↔ c ∈ full.commands) ∧
      (full.poses.Nodup → t.resolve p = full.commands) := by
  refine ⟨InlinesPose.exists_iff, fun full h => ⟨?unique, h.resolve_eq, ?mem, ?equal⟩⟩
  case unique => exact fun _ hother => Inlines.unique hother h
  case mem => exact fun _ => h.mem_resolve_iff
  case equal => exact fun hnodup => by rw [h.resolve_eq, Inlining.firsts_of_nodup hnodup]

/-- The second block of `B` is left out with the block of `D` in it. -/
example :
    let t : PoseTable := SortedMap.ofList
      [("A", ["B", "C", "a+1"]), ("B", ["D", "b+1"]), ("C", ["c-", "B"]), ("D", ["d>1"])]
    let d : Inlining := .block "D" (.command "d>1" .nil) (.command "b+1" .nil)
    let full : Inlining := .block "A" (.block "B" d (.block "C" (.command "c-" (.block "B" d .nil))
      (.command "a+1" .nil))) .nil
    full.commands = ["d>1", "b+1", "c-", "d>1", "b+1", "a+1"] ∧
      full.firsts.commands = ["d>1", "b+1", "c-", "a+1"] ∧ t.resolve "A" = full.firsts.commands := by
  cbv

end PoseTable

end Portrait
