import Mathlib.Data.List.Induction
import Mathlib.Data.List.Nodup
import Mathlib.Data.List.Perm.Basic
import Portrait.Proofs.Player.State

/-! A player's state after any changes: which poses are active, and in which order, can be read off the
times at which poses were activated and removed. -/

namespace Portrait

/-! ### Judges -/

inductive Hearing {κ : Type} (judge : κ → String → Bool × κ) : κ → List (String × Bool) → κ → Prop
  | nil (k : κ) : Hearing judge k [] k
  | cons {k k' last : κ} {x : String} {picked : Bool} {answers : List (String × Bool)} :
      judge k x = (picked, k') → Hearing judge k' answers last →
        Hearing judge k ((x, picked) :: answers) last

section Split

variable {κ : Type} (judge : κ → String → Bool × κ) (k : κ) (xs : List String)

theorem exists_hearing : ∃ answers last, Hearing judge k answers last ∧ answers.map (·.1) = xs ∧
    splitBy judge k xs =
      ((answers.filter (·.2)).map (·.1), (answers.filter (!·.2)).map (·.1), last) := by
  induction xs generalizing k with
  | nil => exact ⟨[], k, .nil k, rfl, rfl⟩
  | cons x xs ih =>
    cases hjudge : judge k x with
    | mk picked k' =>
      obtain ⟨answers, last, hhearing, hanswers, hsplit⟩ := ih k'
      refine ⟨(x, picked) :: answers, last, .cons hjudge hhearing, congrArg (x :: ·) hanswers, ?_⟩
      simp only [splitBy, hjudge, hsplit]
      cases picked <;> rfl

theorem sublist_splitBy : (splitBy judge k xs).2.1.Sublist xs := by
  obtain ⟨answers, last, -, rfl, hsplit⟩ := exists_hearing judge k xs
  rw [hsplit]
  exact List.filter_sublist.map _

theorem perm_splitBy : ((splitBy judge k xs).1 ++ (splitBy judge k xs).2.1).Perm xs := by
  obtain ⟨answers, last, -, rfl, hsplit⟩ := exists_hearing judge k xs
  rw [hsplit, ← List.map_append]
  exact (List.filter_append_perm (·.2) answers).map _

theorem mem_splitBy_iff (hnodup : xs.Nodup) {x : String} :
    x ∈ (splitBy judge k xs).2.1 ↔ x ∈ xs ∧ x ∉ (splitBy judge k xs).1 := by
  have hperm := perm_splitBy judge k xs
  have hdisjoint := List.disjoint_of_nodup_append (hperm.nodup_iff.mpr hnodup)
  rw [← hperm.mem_iff, List.mem_append]
  constructor
  · exact fun hkept => ⟨.inr hkept, fun hpicked => hdisjoint hpicked hkept⟩
  · exact fun ⟨hmem, hnot⟩ => hmem.resolve_left hnot

end Split

namespace PlayerState

/-! ### One change -/

/-- What can be done to a state.  The judge of an eviction need not answer alike each time. -/
inductive Change : Type 1
  | activate (pose : String)
  | deactivate (pose : String)
  | evict {κ : Type} (judge : κ → String → Bool × κ) (k : κ)
  | setOverride (id : String) (visible : Bool)
  | clearOverrides (start : String)
  | clear

def change (s : PlayerState) : Change → PlayerState
  | .activate pose => (s.activate pose).2
  | .deactivate pose => (s.deactivate pose).2
  | .evict judge k => (s.evictWith judge k).2
  | .setOverride id visible => s.setOverride id visible
  | .clearOverrides start => (s.clearOverrides start).2
  | .clear => {}

def Change.Activates (s : PlayerState) (pose : String) : Change → Prop
  | .activate pose' => pose' = pose ∧ (s.activate pose').1 = true
  | _ => False

def Change.Removes (s : PlayerState) (pose : String) : Change → Prop
  | .deactivate pose' => pose' = pose
  | .evict judge k => pose ∈ (s.evictWith judge k).1
  | .clear => True
  | _ => False

variable {s : PlayerState} {c : Change} {pose x : String}

theorem activate_answer : (s.activate pose).1 = true ↔ pose ∉ s.active := by
  rw [← isActive_iff, activate]
  split <;> simp_all

theorem change_active (hnodup : s.active.Nodup) (c : Change) :
    (∃ pose, c = .activate pose ∧ pose ∉ s.active ∧ (s.change c).active = s.active ++ [pose]) ∨
    ((∀ pose, ¬ c.Activates s pose) ∧ (s.change c).active.Sublist s.active ∧
      ∀ x, x ∈ (s.change c).active ↔ x ∈ s.active ∧ ¬ c.Removes s x) := by
  cases c with
  | activate pose =>
    by_cases hpose : pose ∈ s.active
    · right
      have hsame : (s.activate pose).2.active = s.active := by rw [activate_active, if_pos hpose]
      simp [change, hsame, Change.Activates, Change.Removes, activate_answer, hpose]
    · left
      exact ⟨pose, rfl, hpose, by rw [change, activate_active, if_neg hpose]⟩
  | deactivate pose =>
    right
    refine ⟨fun _ h => h, List.filter_sublist, fun x => ?_⟩
    rw [change, deactivate_active, List.mem_filter, decide_eq_true_eq]
    exact and_congr_right fun _ => ne_comm
  | evict judge k =>
    right
    exact ⟨fun _ h => h, sublist_splitBy judge k s.active, fun x => mem_splitBy_iff judge k _ hnodup⟩
  | setOverride id visible => exact .inr ⟨fun _ h => h, .refl _, fun x => by simp [change, Change.Removes]⟩
  | clearOverrides start => exact .inr ⟨fun _ h => h, .refl _, fun x => by simp [change, Change.Removes]⟩
  | clear => exact .inr ⟨fun _ h => h, List.nil_sublist _, fun x => by simp [change, Change.Removes]⟩

/-! ### All changes -/

def ofChanges (changes : List Change) : PlayerState := changes.foldl change {}

theorem ofChanges_append_singleton (changes : List Change) (c : Change) :
    ofChanges (changes ++ [c]) = (ofChanges changes).change c := by
  rw [ofChanges, List.foldl_append]
  rfl

def At (does : PlayerState → Change → Prop) (changes : List Change) (i : Nat) : Prop :=
  ∃ c, changes[i]? = some c ∧ does (ofChanges (changes.take i)) c

structure ActiveSince (changes : List Change) (pose : String) (i : Nat) : Prop where
  activated : At (fun s c => c.Activates s pose) changes i
  latest : ∀ j, i < j → ¬ At (fun s c => c.Activates s pose) changes j
  kept : ∀ j, i < j → ¬ At (fun s c => c.Removes s pose) changes j

variable {changes : List Change} {does : PlayerState → Change → Prop} {i : Nat}

theorem At.lt_length (h : At does changes i) : i < changes.length := by
  obtain ⟨c, hc, -⟩ := h
  exact (List.getElem?_eq_some_iff.mp hc).1

theorem at_append_singleton_iff :
    At does (changes ++ [c]) i ↔ At does changes i ∨ i = changes.length ∧ does (ofChanges changes) c := by
  constructor
  · rintro ⟨c', hc, hdoes⟩
    rcases Nat.lt_trichotomy i changes.length with hlt | rfl | hgt
    · rw [List.getElem?_append_left hlt] at hc
      rw [List.take_append_of_le_length (Nat.le_of_lt hlt)] at hdoes
      exact .inl ⟨c', hc, hdoes⟩
    · rw [List.getElem?_concat_length, Option.some.injEq] at hc
      rw [List.take_left, ← hc] at hdoes
      exact .inr ⟨rfl, hdoes⟩
    · have hlt := (List.getElem?_eq_some_iff.mp hc).1
      rw [List.length_append, List.length_singleton] at hlt
      exact absurd hgt (Nat.not_lt.mpr (Nat.le_of_lt_succ hlt))
  · rintro (hat | ⟨rfl, hdoes⟩)
    · have hlt := hat.lt_length
      obtain ⟨c', hc, hdoes⟩ := hat
      refine ⟨c', by rwa [List.getElem?_append_left hlt], ?_⟩
      rwa [List.take_append_of_le_length (Nat.le_of_lt hlt)]
    · exact ⟨c, List.getElem?_concat_length, by rwa [List.take_left]⟩

theorem activeSince_append_singleton_iff : ActiveSince (changes ++ [c]) pose i ↔
    (i = changes.length ∧ c.Activates (ofChanges changes) pose) ∨
      (ActiveSince changes pose i ∧ ¬ c.Activates (ofChanges changes) pose ∧
        ¬ c.Removes (ofChanges changes) pose) := by
  constructor
  · rintro ⟨hactivated, hlatest, hkept⟩
    rcases at_append_singleton_iff.mp hactivated with hbefore | hnow
    · have hlt := hbefore.lt_length
      refine .inr ⟨⟨hbefore, ?_, ?_⟩, ?_, ?_⟩
      · exact fun j hj hat => hlatest j hj (at_append_singleton_iff.mpr (.inl hat))
      · exact fun j hj hat => hkept j hj (at_append_singleton_iff.mpr (.inl hat))
      · exact fun hc => hlatest _ hlt (at_append_singleton_iff.mpr (.inr ⟨rfl, hc⟩))
      · exact fun hc => hkept _ hlt (at_append_singleton_iff.mpr (.inr ⟨rfl, hc⟩))
    · exact .inl hnow
  · rintro (⟨rfl, hc⟩ | ⟨⟨hactivated, hlatest, hkept⟩, hnot, hstays⟩)
    · have hend {does : PlayerState → Change → Prop} {j : Nat} (hj : changes.length < j) :
          ¬ At does (changes ++ [c]) j := by
        intro hat
        have hlt := hat.lt_length
        rw [List.length_append, List.length_singleton] at hlt
        exact absurd hj (Nat.not_lt.mpr (Nat.le_of_lt_succ hlt))
      exact ⟨at_append_singleton_iff.mpr (.inr ⟨rfl, hc⟩), fun _ => hend, fun _ => hend⟩
    · refine ⟨at_append_singleton_iff.mpr (.inl hactivated), fun j hj hat => ?_, fun j hj hat => ?_⟩
      · exact (at_append_singleton_iff.mp hat).elim (hlatest j hj) fun h => hnot h.2
      · exact (at_append_singleton_iff.mp hat).elim (hkept j hj) fun h => hstays h.2

/-- The poses are those that are active since some time, in the order of these times. -/
structure Told (changes : List Change) (poses : List String) : Prop where
  nodup : poses.Nodup
  mem_iff : ∀ pose, pose ∈ poses ↔ ∃ i, ActiveSince changes pose i
  ordered : poses.Pairwise fun a b => ∃ i j, ActiveSince changes a i ∧ ActiveSince changes b j ∧ i < j

namespace Told

variable {poses poses' : List String}

theorem activate (h : Told changes (ofChanges changes).active) (hnew : pose ∉ (ofChanges changes).active) :
    Told (changes ++ [.activate pose]) ((ofChanges changes).active ++ [pose]) := by
  have hnow : ActiveSince (changes ++ [.activate pose]) pose changes.length :=
    activeSince_append_singleton_iff.mpr (.inl ⟨rfl, rfl, activate_answer.mpr hnew⟩)
  have hstay {x : String} {i : Nat} (hx : x ∈ (ofChanges changes).active) (hi : ActiveSince changes x i) :
      ActiveSince (changes ++ [.activate pose]) x i :=
    activeSince_append_singleton_iff.mpr (.inr ⟨hi, fun hx' => hnew (hx'.1 ▸ hx), fun hremoves => hremoves⟩)
  refine ⟨?nodup, fun x => ?mem, ?ordered⟩
  case nodup => exact h.nodup.append (List.nodup_singleton pose) (by simpa using hnew)
  case mem =>
    rw [List.mem_append, List.mem_singleton]
    constructor
    · rintro (hx | rfl)
      · obtain ⟨i, hi⟩ := (h.mem_iff x).mp hx
        exact ⟨i, hstay hx hi⟩
      · exact ⟨_, hnow⟩
    · rintro ⟨i, hi⟩
      rcases activeSince_append_singleton_iff.mp hi with ⟨-, hx⟩ | ⟨hi, -⟩
      · exact .inr hx.1.symm
      · exact .inl ((h.mem_iff x).mpr ⟨i, hi⟩)
  case ordered =>
    refine List.pairwise_append.mpr ⟨?_, List.pairwise_singleton _ _, fun x hx y hy => ?_⟩
    · refine h.ordered.imp_of_mem ?_
      rintro a b ha hb ⟨i, j, hi, hj, hij⟩
      exact ⟨i, j, hstay ha hi, hstay hb hj, hij⟩
    · obtain rfl := List.mem_singleton.mp hy
      obtain ⟨i, hi⟩ := (h.mem_iff x).mp hx
      exact ⟨i, _, hstay hx hi, hnow, hi.activated.lt_length⟩

theorem remove (h : Told changes poses) (hnone : ∀ x, ¬ c.Activates (ofChanges changes) x)
    (hsub : poses'.Sublist poses)
    (hmem : ∀ x, x ∈ poses' ↔ x ∈ poses ∧ ¬ c.Removes (ofChanges changes) x) :
    Told (changes ++ [c]) poses' := by
  have hstay {x : String} {i : Nat} : ActiveSince (changes ++ [c]) x i ↔
      ActiveSince changes x i ∧ ¬ c.Removes (ofChanges changes) x := by
    rw [activeSince_append_singleton_iff]
    simp [hnone x]
  refine ⟨hsub.nodup h.nodup, fun x => ?mem, ?ordered⟩
  case mem =>
    rw [hmem, h.mem_iff, ← exists_and_right]
    exact exists_congr fun i => hstay.symm
  case ordered =>
    refine (h.ordered.sublist hsub).imp_of_mem ?_
    rintro a b ha hb ⟨i, j, hi, hj, hij⟩
    exact ⟨i, j, hstay.mpr ⟨hi, ((hmem a).mp ha).2⟩, hstay.mpr ⟨hj, ((hmem b).mp hb).2⟩, hij⟩

end Told

theorem told_ofChanges (changes : List Change) : Told changes (ofChanges changes).active := by
  induction changes using List.reverseRecOn with
  | nil =>
    refine ⟨.nil, fun pose => ⟨fun h => absurd h List.not_mem_nil, ?_⟩, .nil⟩
    exact fun ⟨i, hi⟩ => absurd hi.activated.lt_length (Nat.not_lt_zero i)
  | append_singleton changes c ih =>
    rw [ofChanges_append_singleton]
    rcases change_active ih.nodup c with ⟨pose, rfl, hnew, hactive⟩ | ⟨hnone, hsub, hmem⟩
    · rw [hactive]
      exact ih.activate hnew
    · exact ih.remove hnone hsub hmem

/-! ### Answers -/

def Differs (s s' : PlayerState) : Prop := ∃ x, ¬ (x ∈ s.active ↔ x ∈ s'.active)

theorem activate_answer_iff (s : PlayerState) (pose : String) :
    (s.activate pose).1 = true ↔ s.Differs (s.activate pose).2 := by
  rw [activate_answer]
  constructor
  · exact fun hnew => ⟨pose, fun h => hnew (h.mpr (mem_activate.mpr (.inr rfl)))⟩
  · rintro ⟨x, hx⟩ hpose
    rw [activate_active, if_pos hpose] at hx
    exact hx Iff.rfl

theorem deactivate_answer_iff (s : PlayerState) (pose : String) :
    (s.deactivate pose).1 = true ↔ s.Differs (s.deactivate pose).2 := by
  rw [deactivate, isActive_iff]
  constructor
  · exact fun hpose => ⟨pose, fun h => by simpa using h.mp hpose⟩
  · rintro ⟨x, hx⟩
    by_contra hpose
    have hsame : s.active.filter (· ≠ pose) = s.active :=
      List.filter_eq_self.mpr fun y hy => decide_eq_true fun heq => hpose (heq ▸ hy)
    exact hx (by rw [hsame])

theorem exists_hearing_evictWith {κ : Type} (judge : κ → String → Bool × κ) (k : κ) (s : PlayerState) :
    ∃ answers last, Hearing judge k answers last ∧ answers.map (·.1) = s.active ∧
      (splitBy judge k s.active).2.2 = last ∧ s.evictWith judge k =
        ((answers.filter (·.2)).map (·.1), { s with active := (answers.filter (!·.2)).map (·.1) }) := by
  obtain ⟨answers, last, hhearing, hactive, hsplit⟩ := exists_hearing judge k s.active
  exact ⟨answers, last, hhearing, hactive, by rw [hsplit], by rw [evictWith, hsplit]⟩

theorem exists_gone_clearOverrides (s : PlayerState) (start : String) : ∃ gone : List (String × Bool),
    s.overrides.entries.Perm (gone ++ (s.clearOverrides start).2.overrides.entries) ∧
      (s.clearOverrides start).1 = gone.length ∧ (∀ e ∈ gone, start.toList <+: e.1.toList) ∧
      ∀ e ∈ (s.clearOverrides start).2.overrides.entries, ¬ start.toList <+: e.1.toList := by
  let starts (e : String × Bool) : Bool := start.toList.isPrefixOf e.1.toList
  have hkept : (s.clearOverrides start).2.overrides.entries = s.overrides.entries.filter (!starts ·) := rfl
  have hperm : (s.overrides.entries.filter starts ++ s.overrides.entries.filter (!starts ·)).Perm
      s.overrides.entries := List.filter_append_perm starts _
  refine ⟨s.overrides.entries.filter starts, hkept ▸ hperm.symm, ?count, fun e he => ?gone, fun e he => ?kept⟩
  case count =>
    have hcount : (s.clearOverrides start).1 =
        s.overrides.entries.length - (s.overrides.entries.filter (!starts ·)).length := rfl
    rw [hcount, ← hperm.length_eq, List.length_append, Nat.add_sub_cancel]
  case gone => exact List.isPrefixOf_iff_prefix.mp (List.mem_filter.mp he).2
  case kept =>
    rw [hkept, List.mem_filter, Bool.not_eq_true'] at he
    exact fun hstarts => Bool.eq_false_iff.mp he.2 (List.isPrefixOf_iff_prefix.mpr hstarts)

/-- After any changes no pose is active twice, and the active poses are those whose last activation that was
answered by yes was not followed by their removal, in the order of these activations.  Activating and
deactivating a pose is answered by yes if other poses are active then.  An eviction asks its judge once about
each active pose, in order, whatever the judge makes of its own answers; it returns those that are picked and
leaves the others, both in their order.  Taking back overrides for a text answers how many there were whose
id starts with it, and takes back these. -/
theorem active_told_by_changes (changes : List Change) :
    Told changes (ofChanges changes).active ∧
    (∀ pose, ((ofChanges changes).activate pose).1 = true ↔
      (ofChanges changes).Differs ((ofChanges changes).activate pose).2) ∧
    (∀ pose, ((ofChanges changes).deactivate pose).1 = true ↔
      (ofChanges changes).Differs ((ofChanges changes).deactivate pose).2) ∧
    (∀ {κ : Type} (judge : κ → String → Bool × κ) (k : κ), ∃ answers last,
      Hearing judge k answers last ∧ answers.map (·.1) = (ofChanges changes).active ∧
        (splitBy judge k (ofChanges changes).active).2.2 = last ∧
        (ofChanges changes).evictWith judge k = ((answers.filter (·.2)).map (·.1),
          { ofChanges changes with active := (answers.filter (!·.2)).map (·.1) })) ∧
    ∀ start, ∃ gone : List (String × Bool), (ofChanges changes).overrides.entries.Perm
        (gone ++ ((ofChanges changes).clearOverrides start).2.overrides.entries) ∧
      ((ofChanges changes).clearOverrides start).1 = gone.length ∧
      (∀ e ∈ gone, start.toList <+: e.1.toList) ∧
      ∀ e ∈ ((ofChanges changes).clearOverrides start).2.overrides.entries,
        ¬ start.toList <+: e.1.toList :=
  ⟨told_ofChanges changes, activate_answer_iff _, deactivate_answer_iff _,
    fun judge k => exists_hearing_evictWith judge k _, exists_gone_clearOverrides _⟩

/-- A judge that picks who comes first; an active pose keeps its place, a removed one comes back last. -/
example : (ofChanges [.activate "Wave", .activate "Smile", .activate "Wave",
    .evict (fun first _ => (first, false)) true, .activate "Smile", .activate "Wave"]).active =
      ["Smile", "Wave"] := by decide

end PlayerState

end Portrait
