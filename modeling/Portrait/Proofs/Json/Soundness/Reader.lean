import Portrait.Proofs.Json.Reader
import Portrait.Proofs.Json.Soundness.Skip

/-! The readers accept nothing but the values that stand for the data they answer. -/

namespace Portrait.Json

def Reader.AcceptsOnly {β : Type} (reader : Reader β) (F : Form β) : Prop :=
  ∀ ⦃s b r⦄, reader.run s = .ok (b, r) →
    ∃ (before : Blanks) (v : Value), s = before.text ++ (v.text ++ r) ∧ F v b

variable {β : Type} {s t r : List Char}

theorem exists_blanks_of_opening {c : Char} (h : opening c s = some t) :
    ∃ b : Blanks, s = b.text ++ c :: t := by
  unfold opening at h
  split at h
  · rename_i d u hs
    split at h
    · rename_i hd
      cases h
      exact exists_blanks (hd ▸ hs)
    · cases h
  · cases h

theorem exists_spelling_of_stringRun {x : String} (h : stringRun s = .ok (x, r)) :
    ∃ (before : Blanks) (w : Spelling), w.Spells x ∧ s = before.text ++ (w.text ++ r) := by
  unfold stringRun at h
  split at h
  · rename_i ho
    obtain ⟨before, rfl⟩ := exists_blanks_of_opening ho
    obtain ⟨w, hw, rfl⟩ := exists_spelling_of_stringFrom h
    exact ⟨before, w, hw, rfl⟩
  · cases h

theorem string_acceptsOnly : string.AcceptsOnly TextForm := by
  intro s x r h
  obtain ⟨before, w, hw, hs⟩ := exists_spelling_of_stringRun h
  exact ⟨before, .string w, hs, .string hw⟩

theorem optionalString_acceptsOnly : optionalString.AcceptsOnly (OptionalForm TextForm) := by
  intro s x r h
  change optionalStringRun s = _ at h
  unfold optionalStringRun at h
  split at h
  · rename_i ho
    obtain ⟨before, rfl⟩ := exists_blanks_of_opening ho
    obtain ⟨_, hword, hpair⟩ := map_eq_ok h
    cases hpair
    exact ⟨before, .null, by rw [eq_append_of_word hword]; rfl, .null⟩
  · obtain ⟨⟨x, _⟩, hstring, hpair⟩ := map_eq_ok h
    cases hpair
    obtain ⟨before, w, hw, hs⟩ := exists_spelling_of_stringRun hstring
    exact ⟨before, .string w, hs, .some (.string hw)⟩

theorem toInt_of_int32? {i : Int} {n : Int32} (h : int32? i = some n) : i = n.toInt := by
  rw [int32?, Option.ite_none_right_eq_some] at h
  obtain ⟨⟨hmin, hmax⟩, hn⟩ := h
  rw [← Option.some.inj hn, Int32.toInt_ofInt_of_le hmin]
  exact Int.lt_of_le_of_lt hmax (by decide)

theorem int32_acceptsOnly : int32.AcceptsOnly Int32Form := by
  intro s n r h
  obtain ⟨before, hs⟩ := exists_blanks (s := s) rfl
  simp only [int32, int32Run] at h
  split at h
  · split at h
    · cases h
    · cases h
    · rename_i hnumber
      split at h
      · rename_i hn
        cases h
        obtain ⟨x, hx, htext⟩ := exists_numberText_of_number hnumber
        rw [htext] at hs
        exact ⟨before, .number x, hs, .number (toInt_of_int32? hn ▸ hx)⟩
      · cases h
  · cases h

/-! ### Arrays -/

variable {item : Reader β} {F : Form β} {first : Bool}

theorem exists_of_nextElement_close (h : nextElement first s = .ok (.close r)) :
    ∃ last : Blanks, s = last.text ++ ']' :: r := by
  unfold nextElement at h
  split at h
  · cases h
  · rename_i c u hs
    split at h
    · rename_i hc
      cases h
      exact exists_blanks (hc ▸ hs)
    · split at h
      · cases h
      · split at h
        · split at h
          · cases h
          · split at h <;> cases h
        · cases h

theorem exists_of_nextElement_element (h : nextElement first s = .ok (.element t)) :
    ∃ b before : Blanks, (first = true → b = ∅) ∧
      s = b.text ++ (separator first ++ (before.text ++ t)) := by
  unfold nextElement at h
  split at h
  · cases h
  · rename_i c u hs
    obtain ⟨b, rfl⟩ := exists_blanks hs
    split at h
    · cases h
    · split at h
      · rename_i hfirst
        cases h
        exact ⟨∅, b, fun _ => rfl, by simp [hfirst, separator]⟩
      · rename_i hfirst
        split at h
        · rename_i hc
          split at h
          · cases h
          · rename_i d v hu
            obtain ⟨before, rfl⟩ := exists_blanks hu
            split at h
            · cases h
            · cases h
              exact ⟨b, before, fun hf => absurd hf hfirst, by simp [hfirst, hc, separator]⟩
        · cases h

theorem exists_items (hitem : item.AcceptsOnly F) {bs : List β}
    (h : elements item first s = .ok (bs, r)) :
    ∃ (b : Blanks) (items : List (Item Value)) (last : Blanks), (first = true → b = ∅) ∧
      List.Forall₂ (fun i b => F i.value b) items bs ∧
      s = b.text ++ (Value.itemsText first items last ++ r) := by
  fun_induction elements item first s generalizing bs with
  | case1 | case3 | case4 => cases h
  | case2 first s u hclose =>
    cases h
    obtain ⟨last, rfl⟩ := exists_of_nextElement_close hclose
    exact ⟨∅, [], last, fun _ => rfl, .nil, by simp [Value.itemsText]⟩
  | case5 first s t hnext a u ha _ as w has ih =>
    cases h
    obtain ⟨b, before, hb, rfl⟩ := exists_of_nextElement_element hnext
    obtain ⟨before', v, rfl, hv⟩ := hitem ha
    obtain ⟨after, items, last, -, hitems, rfl⟩ := ih has
    exact ⟨b, { before := before ++ before', value := v, after } :: items, last, hb, .cons hv hitems,
      by simp [Value.itemsText]⟩

theorem list_acceptsOnly (hitem : item.AcceptsOnly F) : (list item).AcceptsOnly (ListForm F) := by
  intro s bs r h
  change listRun item s = _ at h
  unfold listRun at h
  split at h
  · rename_i ho
    obtain ⟨before, rfl⟩ := exists_blanks_of_opening ho
    obtain ⟨b, items, last, hb, hitems, rfl⟩ := exists_items hitem h
    exact ⟨before, .array items last, by simp [hb rfl, Value.text], .array hitems⟩
  · cases h

/-! ### Objects -/

theorem exists_of_memberKey {k : Option String} (h : memberKey s = .ok (k, r)) :
    ∃ (w : Spelling) (key : String), k = some key ∧ w.Spells key ∧ s = w.text ++ r := by
  unfold memberKey at h
  split at h
  · rename_i c t
    split at h
    · rename_i hc
      obtain ⟨⟨key, _⟩, hstring, hpair⟩ := map_eq_ok h
      cases hpair
      obtain ⟨w, hw, rfl⟩ := exists_spelling_of_stringFrom hstring
      exact ⟨w, key, rfl, hw, by rw [hc]; rfl⟩
    · cases h
  · cases h

theorem exists_of_nextKey_none (h : nextKey first s = .ok (none, r)) :
    ∃ last : Blanks, s = last.text ++ '\x7d' :: r := by
  have not_none {u : List Char} (hu : memberKey u = .ok (none, r)) : False := by
    obtain ⟨_, _, hnone, _⟩ := exists_of_memberKey hu
    cases hnone
  unfold nextKey at h
  split at h
  · cases h
  · rename_i c u hs
    split at h
    · rename_i hc
      cases h
      exact exists_blanks (hc ▸ hs)
    · split at h
      · exact (not_none h).elim
      · split at h
        · split at h
          · split at h
            · cases h
            · exact (not_none h).elim
          · exact (not_none h).elim
        · cases h

theorem exists_of_nextKey_some {key : String} (h : nextKey first s = .ok (some key, r)) :
    ∃ (b beforeKey : Blanks) (w : Spelling), (first = true → b = ∅) ∧ w.Spells key ∧
      s = b.text ++ (separator first ++ (beforeKey.text ++ (w.text ++ r))) := by
  unfold nextKey at h
  split at h
  · cases h
  · rename_i c u hs
    obtain ⟨b, rfl⟩ := exists_blanks hs
    split at h
    · cases h
    · split at h
      · rename_i hfirst
        obtain ⟨w, _, hkey, hw, htext⟩ := exists_of_memberKey h
        cases hkey
        exact ⟨∅, b, w, fun _ => rfl, hw, by simp [hfirst, separator, htext]⟩
      · rename_i hfirst
        split at h
        · rename_i hc
          split at h
          · rename_i d v hu
            obtain ⟨beforeKey, rfl⟩ := exists_blanks hu
            split at h
            · cases h
            · obtain ⟨w, _, hkey, hw, htext⟩ := exists_of_memberKey h
              cases hkey
              exact ⟨b, beforeKey, w, fun hf => absurd hf hfirst, hw,
                by simp [hfirst, hc, separator, htext]⟩
          · cases h
        · cases h

theorem exists_of_colon (h : colon s = .ok r) : ∃ b : Blanks, s = b.text ++ ':' :: r := by
  unfold colon at h
  split at h
  · cases h
  · rename_i c t hs
    split at h
    · rename_i hc
      cases h
      exact exists_blanks (hc ▸ hs)
    · cases h

theorem exists_of_memberValue (hitem : item.AcceptsOnly F) {a : β}
    (h : memberValue item s = .ok (a, r)) :
    ∃ (afterKey before : Blanks) (v : Value),
      s = afterKey.text ++ ':' :: (before.text ++ (v.text ++ r)) ∧ F v a := by
  unfold memberValue at h
  split at h
  · cases h
  · rename_i hc
    obtain ⟨afterKey, rfl⟩ := exists_of_colon hc
    obtain ⟨before, v, rfl, hv⟩ := hitem h
    exact ⟨afterKey, before, v, rfl, hv⟩

theorem exists_entries (hitem : item.AcceptsOnly F) {m m' : SortedMap β}
    (h : entries item first m s = .ok (m', r)) :
    ∃ (b : Blanks) (members : List (Member Value)) (last : Blanks) (es : List (String × β)),
      (first = true → b = ∅) ∧
      List.Forall₂ (fun m e => m.key.Spells e.1 ∧ F m.value e.2) members es ∧
      m' = m.insertAll es ∧ s = b.text ++ (Value.membersText first members last ++ r) := by
  fun_induction entries item first m s with
  | case1 | case3 => cases h
  | case2 first m s u hnone =>
    cases h
    obtain ⟨last, rfl⟩ := exists_of_nextKey_none hnone
    exact ⟨∅, [], last, [], fun _ => rfl, .nil, rfl, by simp [Value.membersText]⟩
  | case4 first m s key t hkey a u ha _ ih =>
    obtain ⟨b, beforeKey, w, hb, hw, rfl⟩ := exists_of_nextKey_some hkey
    obtain ⟨afterKey, before, v, rfl, hv⟩ := exists_of_memberValue hitem ha
    obtain ⟨after, members, last, es, -, hes, rfl, rfl⟩ := ih h
    exact ⟨b, { before, value := v, after, beforeKey, key := w, afterKey } :: members, last,
      (key, a) :: es, hb, .cons ⟨hw, hv⟩ hes, rfl, by simp [Value.membersText]⟩

theorem map_acceptsOnly (hitem : item.AcceptsOnly F) : (map item).AcceptsOnly (MapForm F) := by
  intro s m r h
  change mapRun item s = _ at h
  unfold mapRun at h
  split at h
  · rename_i ho
    obtain ⟨before, rfl⟩ := exists_blanks_of_opening ho
    obtain ⟨b, members, last, es, hb, hes, rfl, rfl⟩ := exists_entries hitem h
    exact ⟨before, .object members last, by simp [hb rfl, Value.text], .object hes⟩
  · cases h

end Portrait.Json
