import Mathlib
import Portrait.Player.Action

/-! The notation of actions.  Every text is that of one action, or is rejected for the first thing that it
lacks: a colon, an argument, a known kind. -/

namespace Portrait

namespace ActionError

def initial : ActionError → Char
  | .noColon _ => '无'
  | .noArgument _ => '操'
  | .unknownKind _ => '未'

theorem head?_append {s t : String} {c : Char} (h : s.toList.head? = some c) :
    (s ++ t).toList.head? = some c := by
  rw [String.toList_append, List.head?_append, h, Option.some_or]

theorem head?_message (e : ActionError) : e.message.toList.head? = some e.initial := by
  cases e with
  | noColon text => exact head?_append (head?_append (by simp [initial]))
  | noArgument kind => exact head?_append (head?_append (by simp [initial]))
  | unknownKind kind => exact head?_append (head?_append (by simp [initial]))

theorem eq_of_between {a b s t : String} (h : a ++ s ++ b = a ++ t ++ b) : s = t :=
  (String.append_right_inj a).mp ((String.append_left_inj b).mp h)

theorem message_injective : Function.Injective message := by
  intro e e' h
  have hinitial : e.initial = e'.initial := by
    rw [← Option.some_inj, ← head?_message, ← head?_message, h]
  cases e <;> cases e'
  case noColon.noColon | noArgument.noArgument | unknownKind.unknownKind =>
    exact congrArg _ (eq_of_between h)
  all_goals simp [initial] at hinitial

end ActionError

namespace Action

inductive Means : String → String → Action → Prop
  | set (pose : String) : Means "set" pose (.setPose pose)
  | add (pose : String) : Means "add" pose (.addPose pose)
  | remove (pose : String) : Means "remove" pose (.removePose pose)
  | show (id : String) : Means "show" id (.setLayer id true)
  | hide (id : String) : Means "hide" id (.setLayer id false)
  | clear (group : String) : Means "clear" group (.clearGroup group)

inductive Rejects : String → ActionError → Prop
  | noColon {s : String} : s ≠ "reset" → ':' ∉ s.toList → Rejects s (.noColon s)
  | noArgument {kind : String} : ':' ∉ kind.toList → Rejects (kind ++ ":") (.noArgument kind)
  | unknownKind {kind arg : String} : ':' ∉ kind.toList → arg ≠ "" → (∀ a, ¬ Means kind arg a) →
      Rejects (kind ++ ":" ++ arg) (.unknownKind kind)

variable {s kind arg : String} {a : Action} {e : ActionError}

theorem ofKind?_eq_some_iff : ofKind? kind arg = some a ↔ Means kind arg a := by
  constructor
  · intro h
    unfold ofKind? at h
    split at h <;> cases h <;> constructor
  · rintro ⟨⟩ <;> rfl

theorem ofKind?_eq_none (h : ∀ a, ¬ Means kind arg a) : ofKind? kind arg = none :=
  Option.eq_none_iff_forall_ne_some.mpr fun a ha => h a (ofKind?_eq_some_iff.mp ha)

theorem Means.not_mem (h : Means kind arg a) : ':' ∉ kind.toList := by
  cases h <;> decide

theorem Means.toString_eq (h : Means kind arg a) : toString a = kind ++ ":" ++ arg := by
  cases h <;> rfl

theorem eq_reset_or_means (a : Action) : a = .reset ∨ ∃ kind arg, Means kind arg a := by
  rcases a with pose | pose | pose | ⟨id, _ | _⟩ | group | _
  case reset => exact .inl rfl
  all_goals exact .inr ⟨_, _, by constructor⟩

/-! ### Where a text is split -/

section Split

variable {cs ds : List Char}

theorem splitAtColon_append (h : ':' ∉ cs) : splitAtColon (cs ++ ':' :: ds) = some (cs, ds) := by
  induction cs with
  | nil => rfl
  | cons c cs ih =>
    rw [List.mem_cons, not_or] at h
    rw [List.cons_append, splitAtColon, if_neg (Ne.symm h.1), ih h.2, Option.map_some]

theorem splitAtColon_eq_none (h : ':' ∉ cs) : splitAtColon cs = none := by
  induction cs with
  | nil => rfl
  | cons c cs ih =>
    rw [List.mem_cons, not_or] at h
    rw [splitAtColon, if_neg (Ne.symm h.1), ih h.2, Option.map_none]

end Split

theorem toList_colon (kind arg : String) :
    (kind ++ ":" ++ arg).toList = kind.toList ++ ':' :: arg.toList := by
  simp

theorem exists_split (h : ':' ∈ s.toList) : ∃ kind arg, s = kind ++ ":" ++ arg ∧ ':' ∉ kind.toList := by
  obtain ⟨cs, ds, hs, hcs⟩ := List.eq_append_cons_of_mem h
  refine ⟨.ofList cs, .ofList ds, ?_, by rwa [String.toList_ofList]⟩
  rw [← String.toList_inj, toList_colon, hs, String.toList_ofList, String.toList_ofList]

/-! ### What is read -/

theorem parse_of_not_mem (hs : s ≠ "reset") (h : ':' ∉ s.toList) : parse s = .error (.noColon s) := by
  rw [parse, if_neg hs, splitAtColon_eq_none h]

theorem colon_ne_reset (kind arg : String) : kind ++ ":" ++ arg ≠ "reset" := by
  intro h
  have hmem : ':' ∈ "reset".toList := by simp [← h]
  exact absurd hmem (by decide)

theorem parse_colon (arg : String) (h : ':' ∉ kind.toList) : parse (kind ++ ":" ++ arg) =
    if arg = "" then .error (.noArgument kind)
    else (ofKind? kind arg).elim (.error (.unknownKind kind)) .ok := by
  rw [parse, if_neg (colon_ne_reset kind arg), toList_colon, splitAtColon_append h]
  simp only [String.ofList_toList, List.isEmpty_iff, String.toList_eq_nil_iff]
  cases ofKind? kind arg <;> rfl

theorem Means.parse_eq (h : Means kind arg a) (harg : arg ≠ "") : parse (kind ++ ":" ++ arg) = .ok a := by
  rw [parse_colon arg h.not_mem, if_neg harg, ofKind?_eq_some_iff.mpr h, Option.elim_some]

theorem parse_colon_empty (h : ':' ∉ kind.toList) : parse (kind ++ ":") = .error (.noArgument kind) := by
  have hparse := parse_colon "" h
  rwa [String.append_empty, if_pos rfl] at hparse

theorem Rejects.parse_eq (h : Rejects s e) : parse s = .error e := by
  cases h with
  | noColon hs hmem => exact parse_of_not_mem hs hmem
  | noArgument hmem => exact parse_colon_empty hmem
  | unknownKind hmem harg hnot =>
    rw [parse_colon _ hmem, if_neg harg, ofKind?_eq_none hnot, Option.elim_none]

theorem exists_reading (s : String) : s = "reset" ∨
    (∃ kind arg a, Means kind arg a ∧ arg ≠ "" ∧ s = kind ++ ":" ++ arg) ∨ ∃ e, Rejects s e := by
  by_cases hmem : ':' ∈ s.toList
  · obtain ⟨kind, arg, rfl, hkind⟩ := exists_split hmem
    by_cases harg : arg = ""
    · rw [harg, String.append_empty]
      exact .inr (.inr ⟨_, .noArgument hkind⟩)
    by_cases hmeans : ∃ a, Means kind arg a
    · obtain ⟨a, ha⟩ := hmeans
      exact .inr (.inl ⟨kind, arg, a, ha, harg, rfl⟩)
    · exact .inr (.inr ⟨_, .unknownKind hkind harg (not_exists.mp hmeans)⟩)
  · by_cases hs : s = "reset"
    · exact .inl hs
    · exact .inr (.inr ⟨_, .noColon hs hmem⟩)

theorem parse_eq_ok_iff : parse s = .ok a ↔
    s = "reset" ∧ a = .reset ∨ ∃ kind arg, Means kind arg a ∧ arg ≠ "" ∧ s = kind ++ ":" ++ arg := by
  constructor
  · intro h
    obtain rfl | ⟨kind, arg, b, hb, harg, rfl⟩ | ⟨e, he⟩ := exists_reading s
    · exact .inl ⟨rfl, (Except.ok.inj h).symm⟩
    · rw [hb.parse_eq harg] at h
      cases h
      exact .inr ⟨kind, arg, hb, harg, rfl⟩
    · rw [he.parse_eq] at h
      cases h
  · rintro (⟨rfl, rfl⟩ | ⟨kind, arg, ha, harg, rfl⟩)
    · rfl
    · exact ha.parse_eq harg

theorem parse_eq_error_iff : parse s = .error e ↔ Rejects s e := by
  refine ⟨fun h => ?_, Rejects.parse_eq⟩
  obtain rfl | ⟨kind, arg, a, ha, harg, rfl⟩ | ⟨e', he⟩ := exists_reading s
  · cases h
  · rw [ha.parse_eq harg] at h
    cases h
  · rw [he.parse_eq] at h
    cases h
    exact he

theorem toString_of_parse (h : parse s = .ok a) : toString a = s := by
  obtain ⟨rfl, rfl⟩ | ⟨kind, arg, ha, -, rfl⟩ := parse_eq_ok_iff.mp h
  · rfl
  · exact ha.toString_eq

theorem parse_toString_iff : parse (toString a) = .ok a ↔ ∀ kind, ¬ Means kind "" a := by
  constructor
  · intro h kind ha
    rw [ha.toString_eq, String.append_empty, parse_colon_empty ha.not_mem] at h
    cases h
  · intro h
    obtain rfl | ⟨kind, arg, ha⟩ := eq_reset_or_means a
    · rfl
    · rw [ha.toString_eq]
      exact ha.parse_eq fun harg => h kind (harg ▸ ha)

/-- The actions are read from `reset` and from a kind and an argument that is not empty, with a colon
between them.  The argument is all that follows the first colon.  No two texts are those of one action, and
an action is read from its own text unless its argument is empty.  The message on any other text is that of
the first thing that the text lacks. -/
theorem notation_exact :
    (∀ s a, parse s = .ok a ↔
      s = "reset" ∧ a = .reset ∨ ∃ kind arg, Means kind arg a ∧ arg ≠ "" ∧ s = kind ++ ":" ++ arg) ∧
    (∀ s t a, parse s = .ok a → parse t = .ok a → s = t) ∧
    (toString reset = "reset" ∧ ∀ kind arg a, Means kind arg a → toString a = kind ++ ":" ++ arg) ∧
    (∀ a, parse (toString a) = .ok a ↔ ∀ kind, ¬ Means kind "" a) ∧
    ∀ s e, (parse s).mapError ActionError.message = .error e.message ↔ Rejects s e := by
  refine ⟨fun s a => parse_eq_ok_iff, fun s t a hs ht => ?injective,
    ⟨rfl, fun kind arg a => Means.toString_eq⟩, fun a => parse_toString_iff, fun s e => ?message⟩
  case injective => rw [← toString_of_parse hs, toString_of_parse ht]
  case message =>
    rw [← parse_eq_error_iff]
    cases parse s with
    | ok a => exact iff_of_false nofun nofun
    | error e' =>
      simp only [Except.mapError, Except.error.injEq]
      exact ActionError.message_injective.eq_iff

example : parse "hide:a:b" = .ok (.setLayer "a:b" false) := by decide

end Action

end Portrait
