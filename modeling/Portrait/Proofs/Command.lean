import Portrait.Command
import Portrait.Proofs.Text.Offset

/-! The text of a command and what is read from it: the group goes up to the first operator, and the name
may hold more of them. -/

namespace Portrait

def FreeOfOperators (s : String) : Prop := '+' ∉ s.toList ∧ '-' ∉ s.toList ∧ '>' ∉ s.toList

instance (s : String) : Decidable (FreeOfOperators s) := inferInstanceAs (Decidable (_ ∧ _ ∧ _))

namespace Operator

@[simp] theorem ofChar?_toChar (op : Operator) : ofChar? op.toChar = some op := by
  cases op <;> rfl

theorem utf8Size_toChar (op : Operator) : op.toChar.utf8Size = 1 := by
  cases op <;> rfl

theorem eq_toChar_of_ofChar? {c : Char} {op : Operator} (h : ofChar? c = some op) : c = op.toChar := by
  unfold ofChar? at h
  split at h <;> simp_all [toChar, eq_comm]

theorem ofChar?_eq_none_iff {c : Char} : ofChar? c = none ↔ c ≠ '+' ∧ c ≠ '-' ∧ c ≠ '>' := by
  unfold ofChar?
  split <;> simp_all

end Operator

theorem freeOfOperators_iff {s : String} :
    FreeOfOperators s ↔ ∀ c ∈ s.toList, Operator.ofChar? c = none := by
  simp only [Operator.ofChar?_eq_none_iff]
  grind [FreeOfOperators]

namespace Command

variable {raw group name : List Char} {op : Operator}

def parseAtOffset? (raw : String) : Option Command :=
  match Text.firstAt? Operator.ofChar? raw with
  | some (offset, op) => do
    let group ← Text.before? raw offset
    let name ← Text.after? raw (offset + 1)
    return ⟨group, name, op⟩
  | none => some noop

theorem splitAtOperator_append (h : ∀ c ∈ group, Operator.ofChar? c = none) :
    splitAtOperator (group ++ op.toChar :: name) = some (group, op, name) := by
  induction group with
  | nil => simp [splitAtOperator]
  | cons c group ih =>
    obtain ⟨hc, hgroup⟩ := List.forall_mem_cons.mp h
    simp [splitAtOperator, hc, ih hgroup]

theorem splitAtOperator_eq_none (h : ∀ c ∈ raw, Operator.ofChar? c = none) :
    splitAtOperator raw = none := by
  induction raw with
  | nil => rfl
  | cons c raw ih =>
    obtain ⟨hc, hraw⟩ := List.forall_mem_cons.mp h
    simp [splitAtOperator, hc, ih hraw]

theorem exists_split (h : ¬ ∀ c ∈ raw, Operator.ofChar? c = none) :
    ∃ group op name, raw = group ++ Operator.toChar op :: name ∧
      ∀ c ∈ group, Operator.ofChar? c = none := by
  induction raw with
  | nil => simp at h
  | cons c raw ih =>
    cases hc : Operator.ofChar? c with
    | some op =>
      exact ⟨[], op, raw, by rw [Operator.eq_toChar_of_ofChar? hc, List.nil_append], by simp⟩
    | none =>
      obtain ⟨group, op, name, rfl, hgroup⟩ := ih fun hraw => h (List.forall_mem_cons.mpr ⟨hc, hraw⟩)
      exact ⟨c :: group, op, name, rfl, List.forall_mem_cons.mpr ⟨hc, hgroup⟩⟩

theorem exists_text {raw : String} (h : ¬ FreeOfOperators raw) :
    ∃ group op name, raw = .ofList (group ++ Operator.toChar op :: name) ∧
      ∀ c ∈ group, Operator.ofChar? c = none := by
  obtain ⟨group, op, name, hraw, hgroup⟩ := exists_split (freeOfOperators_iff.not.mp h)
  exact ⟨group, op, name, by rw [← hraw, String.ofList_toList], hgroup⟩

theorem toList_toString (c : Command) :
    (toString c).toList = c.group.toList ++ c.op.toChar :: c.name.toList := by
  simp [toString]

theorem parse_of_free {raw : String} (h : FreeOfOperators raw) : parse raw = noop := by
  rw [parse, splitAtOperator_eq_none (freeOfOperators_iff.mp h)]

theorem parse_ofList (h : ∀ c ∈ group, Operator.ofChar? c = none) :
    parse (.ofList (group ++ op.toChar :: name)) = ⟨.ofList group, .ofList name, op⟩ := by
  rw [parse, String.toList_ofList, splitAtOperator_append h]

theorem toString_parse {raw : String} (h : ¬ FreeOfOperators raw) :
    FreeOfOperators (parse raw).group ∧ toString (parse raw) = raw := by
  obtain ⟨group, op, name, rfl, hgroup⟩ := exists_text h
  rw [parse_ofList hgroup, ← String.toList_inj, toList_toString]
  exact ⟨freeOfOperators_iff.mpr (by simpa using hgroup), by simp⟩

theorem parse_toString {c : Command} (h : FreeOfOperators c.group) : parse (toString c) = c := by
  rw [← String.ofList_toList (s := toString c), toList_toString,
    parse_ofList (freeOfOperators_iff.mp h), String.ofList_toList, String.ofList_toList]

theorem not_freeOfOperators_toString (c : Command) : ¬ FreeOfOperators (toString c) := by
  rw [freeOfOperators_iff, toList_toString]
  exact fun h => by simpa using h c.op.toChar (by simp)

theorem parse_toString_iff {c : Command} : parse (toString c) = c ↔ FreeOfOperators c.group := by
  refine ⟨fun h => ?_, parse_toString⟩
  exact h ▸ (toString_parse (not_freeOfOperators_toString c)).1

theorem parseAtOffset?_eq (raw : String) : parseAtOffset? raw = some (parse raw) := by
  by_cases h : FreeOfOperators raw
  · rw [parseAtOffset?, Text.firstAt?_eq_none (freeOfOperators_iff.mp h), parse_of_free h]
  · obtain ⟨group, op, name, rfl, hgroup⟩ := exists_text h
    have before : Text.before? (.ofList (group ++ op.toChar :: name))
        (String.ofList group).utf8ByteSize = some (.ofList group) := by
      rw [String.ofList_append, Text.before?_append]
    have after : Text.after? (.ofList (group ++ op.toChar :: name))
        ((String.ofList group).utf8ByteSize + 1) = some (.ofList name) := by
      have hsize : (String.ofList (group ++ [op.toChar])).utf8ByteSize =
          (String.ofList group).utf8ByteSize + 1 := by
        simp [op.utf8Size_toChar]
      rw [← hsize, List.append_cons, String.ofList_append, Text.after?_append]
    rw [parseAtOffset?, Text.firstAt?_append hgroup op.ofChar?_toChar, parse_ofList hgroup]
    simp only [before, after, Option.bind_eq_bind, Option.bind_some, Option.pure_def]

/-- A text with an operator is the text of the command that is read from it, whose group has none; all other
texts are read as the command without effect.  So what is read is read again from its own text.  No text is
cut within a character.  And a command is read from its text just if its group has no operator. -/
theorem text_determines_command :
    (∀ raw : String, parseAtOffset? raw = some (parse raw) ∧
      (¬ FreeOfOperators raw → FreeOfOperators (parse raw).group ∧ toString (parse raw) = raw) ∧
      (FreeOfOperators raw → parse raw = noop) ∧
      parse (toString (parse raw)) = parse raw) ∧
    ∀ group name op, parse (toString (Command.mk group name op)) = ⟨group, name, op⟩ ↔
      FreeOfOperators group := by
  refine ⟨fun raw => ⟨parseAtOffset?_eq raw, toString_parse, parse_of_free, ?again⟩,
    fun group name op => parse_toString_iff⟩
  by_cases h : FreeOfOperators raw
  · rw [parse_of_free h]
    exact parse_toString (by decide)
  · rw [(toString_parse h).2]

/-- The name may have operators. -/
example : parse "表情>微笑-大" = ⟨"表情", "微笑-大", .select⟩ := by decide

end Command

end Portrait
