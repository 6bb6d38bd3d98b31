import Portrait.Proofs.Json.Lexeme

/-! A value of any nesting is passed over, whatever frames it stands in. -/

namespace Portrait.Json

theorem NumberText.exists_text_cons (n : NumberText) :
    ∃ c t, n.text = c :: t ∧ (c = '-' ∨ c.isDigit = true) := by
  cases hn : n.negative with
  | true =>
    exact ⟨'-', n.whole.chars ++ (n.fractionText ++ n.powerText), by simp [NumberText.text, hn],
      .inl rfl⟩
  | false =>
    cases hw : n.whole.chars with
    | nil => exact absurd hw n.whole.ne_nil
    | cons d ds =>
      exact ⟨d, ds ++ (n.fractionText ++ n.powerText), by simp [NumberText.text, hn, hw],
        .inr (n.whole.digit d (by simp [hw]))⟩

theorem ne_of_number_start {c d : Char} (hc : c = '-' ∨ c.isDigit = true)
    (hd : d ≠ '-' ∧ d.isDigit = false) : c ≠ d := by
  rintro rfl
  rcases hc with hc | hc
  · exact hd.1 hc
  · rw [hd.2] at hc
    cases hc

theorem isBlank_of_number_start {c : Char} (hc : c = '-' ∨ c.isDigit = true) : isBlank c = false := by
  have h {d : Char} := ne_of_number_start hc (d := d)
  simp [isBlank, h (d := ' ') (by decide), h (d := '\n') (by decide), h (d := '\t') (by decide),
    h (d := '\r') (by decide)]

namespace Value

theorem exists_text_cons (v : Value) :
    ∃ c t, v.text = c :: t ∧ isBlank c = false ∧ c ≠ ']' := by
  cases v with
  | null => exact ⟨'n', _, rfl, by decide, by decide⟩
  | boolean b => cases b <;> exact ⟨_, _, rfl, by decide, by decide⟩
  | number n =>
    obtain ⟨c, t, ht, hc⟩ := n.exists_text_cons
    exact ⟨c, t, ht, isBlank_of_number_start hc, ne_of_number_start hc (by decide)⟩
  | string w => exact ⟨'"', _, rfl, by decide, by decide⟩
  | array items last => exact ⟨'[', _, rfl, by decide, by decide⟩
  | object members last => exact ⟨'\x7b', _, rfl, by decide, by decide⟩

theorem skipBlanks_text (v : Value) (s : List Char) : skipBlanks (v.text ++ s) = v.text ++ s := by
  obtain ⟨c, t, ht, hc, -⟩ := v.exists_text_cons
  rw [ht, List.cons_append, skipBlanks_cons hc]

end Value

def skipRest (stack : List Frame) (s : List Char) : Except Fault (List Char) :=
  match closeFrames stack s with
  | .error e => .error e
  | .ok (none, r) => .ok r
  | .ok (some open', r) => skipWithin open' r

theorem skipWithin_eq_skipRest {stack : List Frame} {s r : List Char}
    (h : skipStep stack s = closeFrames stack r) : skipWithin stack s = skipRest stack r := by
  rw [skipWithin.eq_def, skipRest]
  split <;> rename_i hs <;> rw [h] at hs <;> simp only [hs]

theorem skipWithin_of_step {stack open' : List Frame} {s r : List Char}
    (h : skipStep stack s = .ok (some open', r)) : skipWithin stack s = skipWithin open' r := by
  rw [skipWithin.eq_def]
  split <;> simp_all

theorem skipWithin_scalar (b : Blanks) {v : Value} {stack : List Frame} {rest : List Char}
    (hopen : ∀ c ∈ v.text.head?, Frame.ofOpener? c = none)
    (h : skipScalar (v.text ++ rest) = .ok rest) :
    skipWithin stack (b.text ++ (v.text ++ rest)) = skipRest stack rest := by
  apply skipWithin_eq_skipRest
  obtain ⟨c, t, ht, hc, -⟩ := v.exists_text_cons
  have hc' : Frame.ofOpener? c = none := hopen c (by simp [ht])
  rw [ht, List.cons_append] at h ⊢
  simp [skipStep, hc, hc', h]

theorem skipScalar_number (n : NumberText) {rest : List Char} (h : Delimited rest) :
    skipScalar (n.text ++ rest) = .ok rest := by
  obtain ⟨c, t, ht, hc⟩ := n.exists_text_cons
  have hne {d : Char} := ne_of_number_start hc (d := d)
  have hscan := Numeral.scan_append .invalidNumber n h
  rw [ht, List.cons_append] at hscan ⊢
  simp [skipScalar, hne (d := 'n') (by decide), hne (d := 't') (by decide),
    hne (d := 'f') (by decide), hne (d := '"') (by decide), hc, hscan, Except.map]

theorem skipScalar_string (w : Spelling) (rest : List Char) :
    skipScalar (w.text ++ rest) = .ok rest := by
  simp [Spelling.text, skipScalar, skipString_tail]

theorem ofOpener?_number (n : NumberText) : ∀ c ∈ n.text.head?, Frame.ofOpener? c = none := by
  obtain ⟨c, t, ht, hc⟩ := n.exists_text_cons
  have hne {d : Char} := ne_of_number_start hc (d := d)
  simp [ht, Frame.ofOpener?, hne (d := '[') (by decide), hne (d := '\x7b') (by decide)]

theorem skipKey_append (b : Blanks) (key : Spelling) (b' : Blanks) (s : List Char) :
    skipKey (b.text ++ (key.text ++ (b'.text ++ ':' :: s))) = .ok s := by
  simp [skipKey, Spelling.text, skipString_tail]

@[simp] theorem isBlank_closer (f : Frame) : isBlank f.closer = false := by cases f <;> rfl

namespace Value

theorem skipRest_close (f : Frame) (b b' : Blanks) (stack : List Frame) (rest : List Char) :
    skipRest (f :: stack) (b.text ++ (b'.text ++ f.closer :: rest)) = skipRest stack rest := by
  simp [skipRest, closeFrames]

theorem skipRest_comma {f : Frame} (b : Blanks) {stack : List Frame} {s t : List Char}
    (h : f.enter s = .ok t) :
    skipRest (f :: stack) (b.text ++ ',' :: s) = skipWithin (f :: stack) t := by
  have hne : ',' ≠ f.closer := by cases f <;> decide
  simp [skipRest, closeFrames, hne, h, Except.map]

theorem openFrame_item (b : Blanks) (v : Value) (s : List Char) :
    openFrame .array (b.text ++ (v.text ++ s)) = .ok (true, v.text ++ s) := by
  obtain ⟨c, t, ht, hc, hne⟩ := v.exists_text_cons
  rw [openFrame, skipBlanks_append, ht, List.cons_append, skipBlanks_cons hc]
  exact if_neg hne

theorem openFrame_member (b : Blanks) (key : Spelling) (b' : Blanks) (s : List Char) :
    openFrame .object (b.text ++ (key.text ++ (b'.text ++ ':' :: s))) = .ok (true, s) := by
  have hkey := skipKey_append ∅ key b' s
  rw [openFrame, skipBlanks_append, Spelling.text, List.cons_append, skipBlanks_cons (by decide)]
  simp only [Blanks.text_empty, List.nil_append, Spelling.text, List.cons_append] at hkey
  simp [Frame.closer, Frame.enter, hkey, Except.map]

theorem openFrame_empty (f : Frame) (b : Blanks) (s : List Char) :
    openFrame f (b.text ++ f.closer :: s) = .ok (false, s) := by
  simp [openFrame]

theorem skipStep_open {f : Frame} (b : Blanks) {c : Char} {stack : List Frame} {s t : List Char}
    (hc : isBlank c = false) (hf : Frame.ofOpener? c = some f) (h : openFrame f s = .ok (true, t)) :
    skipStep stack (b.text ++ c :: s) = .ok (some (f :: stack), t) := by
  simp only [skipStep, skipBlanks_append, skipBlanks_cons hc, hf, h]

theorem skipStep_empty {f : Frame} (b : Blanks) {c : Char} {stack : List Frame} {s t : List Char}
    (hc : isBlank c = false) (hf : Frame.ofOpener? c = some f) (h : openFrame f s = .ok (false, t)) :
    skipStep stack (b.text ++ c :: s) = closeFrames stack t := by
  simp only [skipStep, skipBlanks_append, skipBlanks_cons hc, hf, h]

theorem skipWithin_empty {f : Frame} (b last : Blanks) {c : Char} {stack : List Frame}
    {rest : List Char} (hc : isBlank c = false) (hf : Frame.ofOpener? c = some f) :
    skipWithin stack (b.text ++ c :: (last.text ++ f.closer :: rest)) = skipRest stack rest := by
  exact skipWithin_eq_skipRest (skipStep_empty b hc hf (openFrame_empty ..))

theorem skipWithin_open {f : Frame} (b : Blanks) {c : Char} {stack : List Frame} {s t : List Char}
    (hc : isBlank c = false) (hf : Frame.ofOpener? c = some f) (h : openFrame f s = .ok (true, t)) :
    skipWithin stack (b.text ++ c :: s) = skipWithin (f :: stack) t :=
  skipWithin_of_step (skipStep_open b hc hf h)

mutual
theorem skipWithin_text (v : Value) (b : Blanks) (stack : List Frame) {rest : List Char}
    (h : Delimited rest) : skipWithin stack (b.text ++ (v.text ++ rest)) = skipRest stack rest :=
  match v with
  | .null => skipWithin_scalar b (by simp [text, Frame.ofOpener?]) rfl
  | .boolean true => skipWithin_scalar b (by simp [text, printBool, Frame.ofOpener?]) rfl
  | .boolean false => skipWithin_scalar b (by simp [text, printBool, Frame.ofOpener?]) rfl
  | .number n => skipWithin_scalar b (ofOpener?_number n) (skipScalar_number n h)
  | .string w =>
    skipWithin_scalar b (by simp [text, Spelling.text, Frame.ofOpener?]) (skipScalar_string w rest)
  | .array [] last => by
    simp only [text, itemsText, List.cons_append, List.append_assoc, List.nil_append]
    exact skipWithin_empty b last (c := '[') (by decide) rfl
  | .array (i :: items) last => by
    have hvalue := skipWithin_text i.value ∅ (.array :: stack)
      (.blanks i.after (delimited_itemsText items last rest))
    simp only [text, itemsText, separator, if_true, List.nil_append, List.cons_append,
      List.append_assoc, Blanks.text_empty] at hvalue ⊢
    rw [skipWithin_open b (c := '[') (by decide) rfl (openFrame_item ..), hvalue,
      skipRest_items items last i.after stack rest]
  | .object [] last => by
    simp only [text, membersText, List.cons_append, List.append_assoc, List.nil_append]
    exact skipWithin_empty b last (c := '\x7b') (by decide) rfl
  | .object (m :: members) last => by
    have hvalue := skipWithin_text m.value m.before (.object :: stack)
      (.blanks m.after (delimited_membersText members last rest))
    simp only [text, membersText, separator, if_true, List.nil_append, List.cons_append,
      List.append_assoc]
    rw [skipWithin_open b (c := '\x7b') (by decide) rfl (openFrame_member ..), hvalue,
      skipRest_members members last m.after stack rest]
theorem skipRest_items (items : List (Item Value)) (last b : Blanks) (stack : List Frame)
    (rest : List Char) :
    skipRest (.array :: stack) (b.text ++ (itemsText false items last ++ rest)) = skipRest stack rest :=
  match items with
  | [] => by
    rw [itemsText, List.append_assoc]
    exact skipRest_close .array b last stack rest
  | i :: items => by
    have hvalue := skipWithin_text i.value i.before (.array :: stack)
      (.blanks i.after (delimited_itemsText items last rest))
    simp only [itemsText, separator, Bool.false_eq_true, if_false, List.append_assoc, List.cons_append,
      List.nil_append]
    rw [skipRest_comma b rfl, hvalue, skipRest_items items last i.after stack rest]
theorem skipRest_members (members : List (Member Value)) (last b : Blanks) (stack : List Frame)
    (rest : List Char) :
    skipRest (.object :: stack) (b.text ++ (membersText false members last ++ rest)) =
      skipRest stack rest :=
  match members with
  | [] => by
    rw [membersText, List.append_assoc]
    exact skipRest_close .object b last stack rest
  | m :: members => by
    have hvalue := skipWithin_text m.value m.before (.object :: stack)
      (.blanks m.after (delimited_membersText members last rest))
    simp only [membersText, separator, Bool.false_eq_true, if_false, List.append_assoc,
      List.cons_append, List.nil_append]
    rw [skipRest_comma b (f := .object) (skipKey_append ..), hvalue,
      skipRest_members members last m.after stack rest]
end

end Value

theorem skipValue_text (v : Value) (b : Blanks) {rest : List Char} (h : Delimited rest) :
    skipValue (b.text ++ (v.text ++ rest)) = .ok rest := by
  rw [skipValue, v.skipWithin_text b [] h]
  rfl

end Portrait.Json
