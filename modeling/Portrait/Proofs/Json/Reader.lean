import Mathlib.Data.List.Forall2
import Portrait.Json.Reader
import Portrait.Proofs.Json.Skip

/-! Which values stand for a datum, and that a reader finds the datum in each of their texts. -/

namespace Portrait.Json

abbrev Form (β : Type) := Value → β → Prop

variable {β : Type}

inductive TextForm : Form String
  | string : w.Spells s → TextForm (.string w) s

inductive OptionalForm (F : Form β) : Form (Option β)
  | null : OptionalForm F .null none
  | some : F v b → OptionalForm F v (some b)

inductive Int32Form : Form Int32
  | number : n.integer? = some i.toInt → Int32Form (.number n) i

inductive ListForm (F : Form β) : Form (List β)
  | array : List.Forall₂ (fun i b => F i.value b) items bs → ListForm F (.array items last) bs

/-- The members may come in any order; of those with one key the last one counts. -/
inductive MapForm (F : Form β) : Form (SortedMap β)
  | object : List.Forall₂ (fun m e => m.key.Spells e.1 ∧ F m.value e.2) members es →
      MapForm F (.object members last) (.ofList es)

def Reader.Reads (reader : Reader β) (F : Form β) : Prop :=
  ∀ ⦃v b⦄, F v b → ∀ (before : Blanks) ⦃rest⦄, Delimited rest →
    reader.run (before.text ++ (v.text ++ rest)) = .ok (b, rest)

theorem opening_cons {c : Char} (b : Blanks) (hc : isBlank c = false) (s : List Char) :
    opening c (b.text ++ c :: s) = some s := by
  simp [opening, hc]

theorem opening_of_ne {c d : Char} (b : Blanks) (hd : isBlank d = false) (hne : d ≠ c) (s : List Char) :
    opening c (b.text ++ d :: s) = none := by
  simp [opening, hd, hne]

theorem stringRun_spells {w : Spelling} {s : String} (h : w.Spells s) (b : Blanks) (rest : List Char) :
    stringRun (b.text ++ (w.text ++ rest)) = .ok (s, rest) := by
  rw [Spelling.text, List.cons_append, stringRun, opening_cons b (by decide)]
  exact stringFrom_spells h rest

theorem string_reads : string.Reads TextForm := by
  intro v s h b rest _
  cases h with
  | string h => exact stringRun_spells h b rest

theorem optionalString_reads : optionalString.Reads (OptionalForm TextForm) := by
  intro v s h b rest _
  cases h with
  | null =>
    have hword : word ['u', 'l', 'l'] ('u' :: 'l' :: 'l' :: rest) = .ok rest := rfl
    simp [optionalString, optionalStringRun, Value.text, opening_cons b (c := 'n') (by decide), hword,
      Except.map]
  | some h =>
    cases h with
    | string h =>
      have hstring := stringRun_spells h b rest
      rw [Spelling.text, List.cons_append] at hstring
      simp [optionalString, optionalStringRun, Value.text, Spelling.text,
        opening_of_ne b (c := 'n') (d := '"') (by decide) (by decide), hstring, Except.map]

theorem toInt_int32_mem (i : Int32) :
    Int32.minValue.toInt ≤ i.toInt ∧ i.toInt ≤ Int32.maxValue.toInt := by
  have hmin := i.le_toInt
  have hmax := i.toInt_lt
  have hrange : Int32.minValue.toInt = -2 ^ 31 ∧ Int32.maxValue.toInt = 2 ^ 31 - 1 := by decide
  omega

theorem int32?_toInt (i : Int32) : int32? i.toInt = some i := by
  rw [int32?, if_pos (toInt_int32_mem i), Int32.ofInt_toInt]

theorem int32_reads : int32.Reads Int32Form := by
  intro v i h b rest hrest
  cases h with
  | @number n _ h =>
    obtain ⟨c, t, ht, hc⟩ := n.exists_text_cons
    have hrange := toInt_int32_mem i
    have hnumber := number_append h (Int.le_trans (by decide) hrange.1)
      (Int.le_trans hrange.2 (by decide)) hrest
    have hblanks := Value.skipBlanks_text (.number n) rest
    have hhead : (n.text ++ rest).head?.any (fun c => c = '-' || c.isDigit) = true := by
      simpa [ht] using hc
    rw [Value.text] at hblanks ⊢
    simp only [int32, int32Run, skipBlanks_append, hblanks, hhead, hnumber, if_true, int32?_toInt]

/-! ### Arrays -/

variable {item : Reader β} {F : Form β}

theorem nextElement_nil (first : Bool) (b last : Blanks) (rest : List Char) :
    nextElement first (b.text ++ (Value.itemsText first [] last ++ rest)) = .ok (.close rest) := by
  simp [nextElement, Value.itemsText]

theorem nextElement_cons (first : Bool) (b : Blanks) (i : Item Value) (items : List (Item Value))
    (last : Blanks) (rest : List Char) :
    nextElement first (b.text ++ (Value.itemsText first (i :: items) last ++ rest)) =
      .ok (.element (i.value.text ++ (i.after.text ++ (Value.itemsText false items last ++ rest)))) := by
  obtain ⟨c, t, ht, hc, hne⟩ := i.value.exists_text_cons
  cases first <;> simp [nextElement, Value.itemsText, separator, ht, hc, hne]

theorem elements_close {first : Bool} {s r : List Char} (h : nextElement first s = .ok (.close r)) :
    elements item first s = .ok ([], r) := by
  rw [elements.eq_def]
  split <;> simp_all

theorem elements_element {first : Bool} {s t r u : List Char} {b : β} {bs : List β}
    (h : nextElement first s = .ok (.element t)) (ht : item.run t = .ok (b, r))
    (hr : elements item false r = .ok (bs, u)) : elements item first s = .ok (b :: bs, u) := by
  rw [elements.eq_def]
  split
  · simp_all
  · simp_all
  · rename_i h'
    cases h.symm.trans h'
    split
    · simp_all
    · rename_i ht'
      cases ht.symm.trans ht'
      simp only [hr]

theorem elements_text {items : List (Item Value)} {bs : List β} (hitem : item.Reads F)
    (h : List.Forall₂ (fun i b => F i.value b) items bs) (first : Bool) (b last : Blanks)
    (rest : List Char) :
    elements item first (b.text ++ (Value.itemsText first items last ++ rest)) = .ok (bs, rest) := by
  induction h generalizing first b with
  | nil => exact elements_close (nextElement_nil first b last rest)
  | @cons i a items as hi _ ih =>
    exact elements_element (nextElement_cons first b i items last rest)
      (hitem hi ∅ (.blanks i.after (Value.delimited_itemsText items last rest))) (ih false i.after)

theorem list_reads (hitem : item.Reads F) : (list item).Reads (ListForm F) := by
  intro v bs h b rest _
  cases h with
  | array h =>
    change listRun item _ = _
    rw [Value.text, List.cons_append, listRun, opening_cons b (by decide)]
    exact elements_text hitem h true ∅ _ rest

/-! ### Objects -/

theorem nextKey_nil (first : Bool) (b last : Blanks) (rest : List Char) :
    nextKey first (b.text ++ (Value.membersText first [] last ++ rest)) = .ok (none, rest) := by
  simp [nextKey, Value.membersText]

def afterKey (m : Member Value) (members : List (Member Value)) (last : Blanks) (rest : List Char) :
    List Char :=
  m.afterKey.text ++ ':' :: (m.before.text ++ (m.value.text ++ (m.after.text ++
    (Value.membersText false members last ++ rest))))

theorem nextKey_cons (first : Bool) (b : Blanks) {m : Member Value} {key : String}
    (hkey : m.key.Spells key) (members : List (Member Value)) (last : Blanks) (rest : List Char) :
    nextKey first (b.text ++ (Value.membersText first (m :: members) last ++ rest)) =
      .ok (some key, afterKey m members last rest) := by
  cases first <;>
    simp [nextKey, Value.membersText, separator, Spelling.text, memberKey,
      stringFrom_spells hkey, Except.map, afterKey]

theorem colon_append (b : Blanks) (s : List Char) : colon (b.text ++ ':' :: s) = .ok s := by
  simp [colon]

theorem memberValue_text (hitem : item.Reads F) {m : Member Value} {b : β} (h : F m.value b)
    (members : List (Member Value)) (last : Blanks) (rest : List Char) :
    memberValue item (afterKey m members last rest) =
      .ok (b, m.after.text ++ (Value.membersText false members last ++ rest)) := by
  rw [memberValue, afterKey, colon_append]
  exact hitem h m.before (.blanks m.after (Value.delimited_membersText members last rest))

theorem entries_close {first : Bool} {m : SortedMap β} {s r : List Char}
    (h : nextKey first s = .ok (none, r)) : entries item first m s = .ok (m, r) := by
  rw [entries.eq_def]
  split <;> simp_all

theorem entries_member {first : Bool} {m : SortedMap β} {key : String} {b : β} {s t r : List Char}
    (h : nextKey first s = .ok (some key, t)) (ht : memberValue item t = .ok (b, r)) :
    entries item first m s = entries item false (m.insert key b) r := by
  rw [entries.eq_def]
  split
  · simp_all
  · simp_all
  · rename_i h'
    cases h.symm.trans h'
    split
    · simp_all
    · rename_i ht'
      cases ht.symm.trans ht'
      rfl

theorem entries_text {members : List (Member Value)} {es : List (String × β)} (hitem : item.Reads F)
    (h : List.Forall₂ (fun m e => m.key.Spells e.1 ∧ F m.value e.2) members es) (first : Bool)
    (m : SortedMap β) (b last : Blanks) (rest : List Char) :
    entries item first m (b.text ++ (Value.membersText first members last ++ rest)) =
      .ok (m.insertAll es, rest) := by
  induction h generalizing first b m with
  | nil => exact entries_close (nextKey_nil first b last rest)
  | @cons x e members es he _ ih =>
    rw [entries_member (nextKey_cons first b he.1 members last rest)
      (memberValue_text hitem he.2 members last rest)]
    exact ih false (m.insert e.1 e.2) x.after

theorem map_reads (hitem : item.Reads F) : (map item).Reads (MapForm F) := by
  intro v m h b rest _
  cases h with
  | object h =>
    change mapRun item _ = _
    rw [Value.text, List.cons_append, mapRun, opening_cons b (by decide)]
    exact entries_text hitem h true ∅ ∅ _ rest

end Portrait.Json
