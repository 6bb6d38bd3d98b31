import Portrait.Proofs.Json.Record
import Portrait.Proofs.SortedMap

/-! What is printed is the text of a value, one without blanks. -/

namespace Portrait.Json

variable {α β : Type}

def Prints (print : β → List Char) (F : Form β) : Prop := ∀ b, ∃ v : Value, v.text = print b ∧ F v b

/-! ### Strings -/

theorem hexNumber?_control {n : Nat} (h : n < 0x20) :
    hexNumber? ['0', '0', hexDigit (n / 16), hexDigit (n % 16)] = some n := by
  revert n
  decide

theorem exists_glyph (c : Char) : ∃ g : Glyph, g.text = escaped c ∧ g.char? = some c := by
  unfold escaped
  split
  · exact ⟨.short '"' _ rfl, rfl, rfl⟩
  · exact ⟨.short '\\' _ rfl, rfl, rfl⟩
  · exact ⟨.short 'b' _ rfl, rfl, rfl⟩
  · exact ⟨.short 'f' _ rfl, rfl, rfl⟩
  · exact ⟨.short 'n' _ rfl, rfl, rfl⟩
  · exact ⟨.short 'r' _ rfl, rfl, rfl⟩
  · exact ⟨.short 't' _ rfl, rfl, rfl⟩
  · rename_i hquote hbackslash _ _ _ _ _
    split
    · rename_i hc
      have hunit : isLeading c.toNat = false ∧ isTrailing c.toNat = false := by
        simp only [isLeading, isTrailing, Bool.and_eq_false_iff, decide_eq_false_iff_not]
        omega
      refine ⟨.numbered ⟨_, _, _, _, c.toNat, hexNumber?_control hc⟩, rfl, ?_⟩
      simp [Glyph.char?, hunit, Char.ofNat_toNat]
    · rename_i hc
      exact ⟨.plain c ⟨hquote, hbackslash, Nat.le_of_not_lt hc⟩, rfl, rfl⟩

theorem exists_spelling (s : String) : ∃ w : Spelling, w.text = printString s ∧ w.Spells s := by
  have hglyphs (cs : List Char) : ∃ w : Spelling,
      w.flatMap Glyph.text = cs.flatMap escaped ∧ w.map Glyph.char? = cs.map some := by
    induction cs with
    | nil => exact ⟨[], rfl, rfl⟩
    | cons c cs ih =>
      obtain ⟨g, hg, hc⟩ := exists_glyph c
      obtain ⟨w, hw, hcs⟩ := ih
      exact ⟨g :: w, by simp [hg, hw], by simp [hc, hcs]⟩
  obtain ⟨w, hw, hs⟩ := hglyphs s.toList
  exact ⟨w, by simp [Spelling.text, Spelling.tail, hw, printString], hs⟩

theorem string_prints : Prints printString TextForm := by
  intro s
  obtain ⟨w, hw, hs⟩ := exists_spelling s
  exact ⟨.string w, hw, .string hs⟩

/-! ### Integers -/

theorem eq_zero_of_head?_toDigits {n : Nat} (h : (Nat.toDigits 10 n).head? = some '0') : n = 0 := by
  induction n using Nat.strongRecOn with
  | ind n ih =>
    rw [Nat.toDigits_eq_if (by decide)] at h
    split at h
    · have hdigit : ∀ d < 10, d.digitChar = '0' → d = 0 := by decide
      exact hdigit n (by assumption) (by simpa using h)
    · rw [List.head?_append_of_ne_nil _ Nat.toDigits_ne_nil] at h
      have := ih (n / 10) (by omega) h
      omega

def NumberText.ofInt (i : Int) : NumberText where
  negative := i < 0
  whole := {
    chars := Nat.toDigits 10 i.natAbs
    ne_nil := Nat.toDigits_ne_nil
    digit := fun _ => Nat.isDigit_of_mem_toDigits (by decide) (by decide) }
  zero h := by
    change Nat.toDigits 10 i.natAbs = ['0']
    rw [eq_zero_of_head?_toDigits h, Nat.toDigits_zero]

theorem NumberText.text_ofInt (i : Int) : (ofInt i).text = printInt i := by
  rw [printInt, Int.toString_eq_repr]
  cases i with
  | ofNat n => simp [text, ofInt, fractionText, powerText, Int.repr, Nat.toList_repr]
  | negSucc n =>
    simp [text, ofInt, fractionText, powerText, Int.repr, Nat.toList_repr, Int.negSucc_lt_zero]

theorem NumberText.integer?_ofInt (i : Int) : (ofInt i).integer? = some i := by
  have hdigits : Nat.ofDigitChars 10 (ofInt i).whole.chars 0 = i.natAbs := Nat.ofDigitChars_ten_toDigits
  have hplain : (ofInt i).fraction = none ∧ (ofInt i).power = none := ⟨rfl, rfl⟩
  have hnegative : (ofInt i).negative = decide (i < 0) := rfl
  simp only [integer?, hdigits, hplain, hnegative, Option.isSome_none, Bool.or_self, Bool.false_eq_true,
    if_false, Bool.not_eq_true', decide_eq_false_iff_not]
  split_ifs with h h0
  · omega
  · exact congrArg some (by omega)
  · exact congrArg some (by omega)

theorem int32_prints : Prints (fun i : Int32 => printInt i.toInt) Int32Form := fun i =>
  ⟨.number (.ofInt i.toInt), NumberText.text_ofInt _, .number (NumberText.integer?_ofInt _)⟩

/-! ### Booleans -/

inductive BooleanForm : Form Bool
  | boolean : BooleanForm (.boolean b) b

theorem boolean_prints : Prints printBool BooleanForm := fun b => ⟨.boolean b, rfl, .boolean⟩

/-! ### Arrays and objects -/

def joined (first : Bool) : List (List Char) → List Char
  | [] => []
  | t :: ts => separator first ++ (t ++ joined false ts)

theorem joined_true (ts : List (List Char)) : joined true ts = [','].intercalate ts := by
  cases ts with
  | nil => rfl
  | cons t ts =>
    induction ts generalizing t with
    | nil => simp [joined, separator]
    | cons u us ih =>
      have hu := ih u
      simp only [joined, separator] at hu ⊢
      simp [List.intercalate_cons_cons, ← hu]

theorem itemsText_bare (vs : List Value) (first : Bool) :
    Value.itemsText first (vs.map fun v => { value := v }) ∅ =
      joined first (vs.map Value.text) ++ [']'] := by
  induction vs generalizing first with
  | nil => rfl
  | cons v vs ih => simp [Value.itemsText, joined, ih]

theorem list_prints {print : β → List Char} {F : Form β} (h : Prints print F) :
    Prints (fun bs => printArray (bs.map print)) (ListForm F) := by
  intro bs
  choose value htext hform using h
  refine ⟨.array ((bs.map value).map fun v => { value := v }) ∅, ?_, .array ?_⟩
  · have hmap : (bs.map value).map Value.text = bs.map print := by simp [htext]
    rw [Value.text, itemsText_bare, joined_true, hmap, ← List.cons_append]
    rfl
  · simp [List.forall₂_map_left_iff, hform]

theorem exists_members_between (beforeKey before last : Blanks) (es : List (String × Value)) :
    ∃ members : List (Member Value),
      (∀ first, Value.membersText first members last =
        joined first (es.map fun e =>
          beforeKey.text ++ printString e.1 ++ ':' :: (before.text ++ e.2.text)) ++
            (last.text ++ ['\x7d'])) ∧
      List.Forall₂ (fun m e => m.key.Spells e.1 ∧ m.value = e.2) members es := by
  induction es with
  | nil => exact ⟨[], fun _ => rfl, .nil⟩
  | cons e es ih =>
    obtain ⟨members, htext, hes⟩ := ih
    obtain ⟨w, hw, hs⟩ := exists_spelling e.1
    refine ⟨{ key := w, value := e.2, beforeKey, before } :: members, fun first => ?_,
      .cons ⟨hs, rfl⟩ hes⟩
    simp [Value.membersText, joined, htext, hw]

theorem exists_members (es : List (String × Value)) : ∃ members : List (Member Value),
    (Value.object members ∅).text = printObject (es.map fun e => (e.1, e.2.text)) ∧
      List.Forall₂ (fun m e => m.key.Spells e.1 ∧ m.value = e.2) members es := by
  obtain ⟨members, htext, hes⟩ := exists_members_between ∅ ∅ ∅ es
  refine ⟨members, ?_, hes⟩
  simp [Value.text, htext, joined_true, printObject, printMember, Function.comp_def]

theorem intercalate_lines {lines : List (List Char)} (h : lines ≠ []) :
    [','].intercalate (lines.map ('\n' :: ·)) = '\n' :: [',', '\n'].intercalate lines := by
  obtain ⟨line, lines, rfl⟩ := List.exists_cons_of_ne_nil h
  induction lines generalizing line with
  | nil => simp
  | cons next lines ih =>
    have hnext := ih next (List.cons_ne_nil _ _)
    simp only [List.map_cons] at hnext ⊢
    rw [List.intercalate_cons_cons, hnext, List.intercalate_cons_cons]
    simp

def Blanks.spaces (n : Nat) : Blanks := ⟨List.replicate n ' ', by simp [isBlank]⟩

def Blanks.line (n : Nat) : Blanks := ⟨'\n' :: List.replicate n ' ', by simp [isBlank]⟩

theorem exists_member_lines (es : List (String × Value)) :
    ∃ (members : List (Member Value)) (last : Blanks),
      (Value.object members last).text = printLines (es.map fun e => (e.1, e.2.text)) ∧
        List.Forall₂ (fun m e => m.key.Spells e.1 ∧ m.value = e.2) members es := by
  by_cases hes : es = []
  · exact ⟨[], ∅, by rw [hes]; rfl, hes ▸ .nil⟩
  · obtain ⟨members, htext, hmembers⟩ := exists_members_between (.line 2) (.spaces 1) (.line 0) es
    refine ⟨members, .line 0, ?_, hmembers⟩
    have hlines : (es.map fun e => (Blanks.line 2).text ++ printString e.1 ++
        ':' :: ((Blanks.spaces 1).text ++ e.2.text)) =
        (es.map fun e => [' ', ' '] ++ printString e.1 ++ [':', ' '] ++ e.2.text).map ('\n' :: ·) := by
      simp [Blanks.line, Blanks.spaces, List.replicate]
    rw [Value.text, htext, hlines, joined_true, intercalate_lines (by simpa using hes)]
    simp [printLines, hes, Blanks.line, Function.comp_def]

theorem record_printed (columns : List (Column α)) (a : α) (es : List (String × Value))
    (h : ∀ c ∈ columns, c.Keyed a es) : ∃ v : Value,
      v.text = printObject (es.map fun e => (e.1, e.2.text)) ∧ RecordForm columns v a := by
  obtain ⟨members, htext, hes⟩ := exists_members es
  exact ⟨_, htext, .object hes h⟩

theorem mapForm_object {F : Form β} {value : β → Value} (hform : ∀ b, F (value b) b) {m : SortedMap β}
    {es : List (String × β)} (hes : es.Perm m.entries) {members : List (Member Value)} {last : Blanks}
    (h : List.Forall₂ (fun x e => x.key.Spells e.1 ∧ x.value = e.2) members
      (es.map fun e => (e.1, value e.2))) : MapForm F (.object members last) m := by
  rw [← SortedMap.ofList_perm hes]
  refine .object ((List.forall₂_map_right_iff.mp h).imp ?_)
  rintro x e ⟨hkey, hvalue⟩
  exact ⟨hkey, hvalue ▸ hform e.2⟩

theorem map_printed {print : β → List Char} {F : Form β} (h : Prints print F) {m : SortedMap β}
    {es : List (String × β)} (hes : es.Perm m.entries) : ∃ v : Value,
      v.text = printObject (es.map fun e => (e.1, print e.2)) ∧ MapForm F v m := by
  choose value htext hform using h
  obtain ⟨members, hmembers, hvalues⟩ := exists_members (es.map fun e => (e.1, value e.2))
  exact ⟨.object members ∅, by simp [hmembers, htext, Function.comp_def],
    mapForm_object hform hes hvalues⟩

theorem map_printed_lines {print : β → List Char} {F : Form β} (h : Prints print F)
    (m : SortedMap β) : ∃ v : Value,
      v.text = printLines (m.entries.map fun e => (e.1, print e.2)) ∧ MapForm F v m := by
  choose value htext hform using h
  obtain ⟨members, last, hmembers, hvalues⟩ :=
    exists_member_lines (m.entries.map fun e => (e.1, value e.2))
  exact ⟨.object members last, by simp [hmembers, htext, Function.comp_def],
    mapForm_object hform (.refl _) hvalues⟩

end Portrait.Json
