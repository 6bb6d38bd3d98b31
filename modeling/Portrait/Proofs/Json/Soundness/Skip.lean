import Portrait.Proofs.Json.Soundness.Lexeme

/-! What is passed over is a value of the grammar, whatever frames it stands in. -/

namespace Portrait.Json

inductive Closes : List Frame → List Char → List Char → Prop
  | nil : Closes [] r r
  | array (items : List (Item Value)) (after last : Blanks) : Closes up s r →
      Closes (.array :: up) (after.text ++ (Value.itemsText false items last ++ s)) r
  | object (members : List (Member Value)) (after last : Blanks) : Closes up s r →
      Closes (.object :: up) (after.text ++ (Value.membersText false members last ++ s)) r

def Completes (stack : List Frame) (s r : List Char) : Prop :=
  ∃ (before : Blanks) (v : Value) (t : List Char),
    s = before.text ++ (v.text ++ t) ∧ Closes stack t r

variable {stack up : List Frame} {f : Frame} {s t r : List Char}

theorem exists_value_of_skipScalar (h : skipScalar s = .ok r) : ∃ v : Value, s = v.text ++ r := by
  unfold skipScalar at h
  split at h
  · cases h
  · rename_i c t
    split at h
    · rename_i hc
      exact ⟨.null, by rw [hc, eq_append_of_word h]; rfl⟩
    · split at h
      · rename_i hc
        exact ⟨.boolean true, by rw [hc, eq_append_of_word h]; rfl⟩
      · split at h
        · rename_i hc
          exact ⟨.boolean false, by rw [hc, eq_append_of_word h]; rfl⟩
        · split at h
          · rename_i hc
            obtain ⟨w, rfl⟩ := exists_spelling_of_skipString h
            exact ⟨.string w, by rw [hc]; rfl⟩
          · split at h
            · obtain ⟨⟨n, _⟩, hscan, rfl⟩ := map_eq_ok h
              obtain ⟨x, -, htext⟩ := Numeral.exists_numberText hscan
              exact ⟨.number x, htext⟩
            · cases h

theorem exists_key_of_skipKey (h : skipKey s = .ok r) : ∃ (before : Blanks) (key : Spelling)
    (after : Blanks), s = before.text ++ (key.text ++ (after.text ++ ':' :: r)) := by
  unfold skipKey at h
  split at h
  · cases h
  · rename_i c t hs
    obtain ⟨before, rfl⟩ := exists_blanks hs
    split at h
    · rename_i hc
      subst hc
      split at h
      · cases h
      · rename_i u hu
        obtain ⟨key, rfl⟩ := exists_spelling_of_skipString hu
        split at h
        · cases h
        · rename_i d v hv
          obtain ⟨after, rfl⟩ := exists_blanks hv
          split at h
          · rename_i hd
            cases h
            exact ⟨before, key, after, by rw [hd]; rfl⟩
          · cases h
    · cases h

namespace Closes

theorem close (b : Blanks) (h : Closes up s r) : Closes (f :: up) (b.text ++ f.closer :: s) r := by
  cases f with
  | array => exact .array [] b ∅ h
  | object => exact .object [] b ∅ h

theorem comma (b : Blanks) (henter : f.enter s = .ok t) (h : Completes (f :: up) t r) :
    Closes (f :: up) (b.text ++ ',' :: s) r := by
  obtain ⟨before, v, u, rfl, hu⟩ := h
  cases hu with
  | @array _ u _ items after last hu =>
    cases henter
    have := array ({ before, value := v, after } :: items) b last hu
    simpa [Value.itemsText, separator] using this
  | @object _ u _ members after last hu =>
    obtain ⟨beforeKey, key, afterKey, rfl⟩ := exists_key_of_skipKey henter
    have := object ({ before, value := v, after, beforeKey, key, afterKey } :: members) b last hu
    simpa [Value.membersText, separator] using this

end Closes

theorem closes_of_closeFrames {o : Option (List Frame)} (h : closeFrames stack s = .ok (o, t))
    (hrest : o.elim (t = r) (Completes · t r)) : Closes stack s r := by
  fun_induction closeFrames stack s with
  | case1 s =>
    obtain ⟨rfl, rfl⟩ := Prod.mk.inj (Except.ok.inj h)
    obtain rfl : s = r := hrest
    exact .nil
  | case2 | case5 => cases h
  | case3 f up s u hs ih =>
    obtain ⟨b, rfl⟩ := exists_blanks hs
    exact .close b (ih h)
  | case4 f up s u hs hne =>
    obtain ⟨b, rfl⟩ := exists_blanks hs
    obtain ⟨v, henter, hv⟩ := map_eq_ok h
    cases hv
    exact .comma b henter hrest

def Frame.opener : Frame → Char
  | .array => '['
  | .object => '\x7b'

theorem eq_opener {c : Char} (h : Frame.ofOpener? c = some f) : c = f.opener := by
  unfold Frame.ofOpener? at h
  split at h
  · cases h
    assumption
  · split at h
    · cases h
      assumption
    · cases h

namespace Completes

variable {c : Char}

theorem opened (hc : Frame.ofOpener? c = some f) (ho : openFrame f s = .ok (true, t))
    (h : Completes (f :: stack) t r) : Completes stack (c :: s) r := by
  obtain rfl := eq_opener hc
  unfold openFrame at ho
  split at ho
  · cases ho
  · rename_i d u hs
    obtain ⟨b, rfl⟩ := exists_blanks hs
    split at ho
    · cases ho
    · obtain ⟨_, henter, hpair⟩ := map_eq_ok ho
      cases hpair
      obtain ⟨before, v, w, rfl, hw⟩ := h
      cases hw with
      | @array _ u' _ items after last hw =>
        refine ⟨∅, .array ({ before := b ++ before, value := v, after } :: items) last, u', ?_, hw⟩
        rw [Except.ok.inj henter]
        simp [Value.text, Value.itemsText, separator, Frame.opener]
      | @object _ u' _ members after last hw =>
        obtain ⟨beforeKey, key, afterKey, hkey⟩ := exists_key_of_skipKey henter
        refine ⟨∅, .object ({ before, value := v, after, beforeKey := b ++ beforeKey, key, afterKey } ::
          members) last, u', ?_, hw⟩
        rw [hkey]
        simp [Value.text, Value.membersText, separator, Frame.opener]

theorem empty (hc : Frame.ofOpener? c = some f) (ho : openFrame f s = .ok (false, t))
    (h : Closes stack t r) : Completes stack (c :: s) r := by
  obtain rfl := eq_opener hc
  unfold openFrame at ho
  split at ho
  · cases ho
  · rename_i d u hs
    obtain ⟨b, rfl⟩ := exists_blanks hs
    split at ho
    · rename_i hd
      cases ho
      subst hd
      cases f with
      | array =>
        refine ⟨∅, .array [] b, t, ?_, h⟩
        simp [Value.text, Value.itemsText, Frame.opener, Frame.closer]
      | object =>
        refine ⟨∅, .object [] b, t, ?_, h⟩
        simp [Value.text, Value.membersText, Frame.opener, Frame.closer]
    · obtain ⟨_, _, hpair⟩ := map_eq_ok ho
      cases hpair

theorem blanks (b : Blanks) (h : Completes stack s r) : Completes stack (b.text ++ s) r := by
  obtain ⟨before, v, t, rfl, ht⟩ := h
  exact ⟨b ++ before, v, t, by simp, ht⟩

theorem of_skipStep {o : Option (List Frame)} (h : skipStep stack s = .ok (o, t))
    (hrest : o.elim (t = r) (Completes · t r)) : Completes stack s r := by
  unfold skipStep at h
  split at h
  · cases h
  · rename_i c u hs
    obtain ⟨b, rfl⟩ := exists_blanks hs
    apply blanks
    split at h
    · rename_i f hf
      split at h
      · cases h
      · rename_i ho
        cases h
        exact opened hf ho hrest
      · rename_i ho
        exact empty hf ho (closes_of_closeFrames h hrest)
    · split at h
      · cases h
      · rename_i hscalar
        obtain ⟨v, hv⟩ := exists_value_of_skipScalar hscalar
        exact ⟨∅, v, _, hv, closes_of_closeFrames h hrest⟩

theorem of_skipWithin (h : skipWithin stack s = .ok r) : Completes stack s r := by
  fun_induction skipWithin stack s with
  | case1 => cases h
  | case2 stack s t hs =>
    cases h
    exact of_skipStep hs rfl
  | case3 stack s open' t hs _ ih => exact of_skipStep hs (ih h)

end Completes

theorem exists_value_of_skipValue (h : skipValue s = .ok r) :
    ∃ (before : Blanks) (v : Value), s = before.text ++ (v.text ++ r) := by
  obtain ⟨before, v, t, hs, ht⟩ := Completes.of_skipWithin h
  cases ht
  exact ⟨before, v, hs⟩

end Portrait.Json
