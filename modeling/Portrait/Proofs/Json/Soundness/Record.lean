import Portrait.Proofs.Json.Record
import Portrait.Proofs.Json.Soundness.Reader

/-! A record is read from those values only that stand for it. -/

namespace Portrait.Json

variable {α β γ : Type} {s r : List Char}

theorem Reader.map_acceptsOnly {reader : Reader β} {F : Form β} (h : reader.AcceptsOnly F) (f : β → γ) :
    (reader.map f).AcceptsOnly fun v c => ∃ b, F v b ∧ f b = c := by
  intro s c r hrun
  simp only [Reader.map] at hrun
  split at hrun
  · cases hrun
  · rename_i hb
    cases hrun
    obtain ⟨before, v, hs, hv⟩ := h hb
    exact ⟨before, v, hs, _, hv, rfl⟩

structure Field.Takes (columns : List (Column α)) (f : Field α) (c : Column α) : Prop where
  key : f.key = c.key
  optional : f.required = false → c.default?.isSome = true
  accepts : f.value.AcceptsOnly fun v set => ∀ x, c.form v (c.get (set x)) ∧
    ∀ c' ∈ columns, c'.key ≠ c.key → c'.get (set x) = c'.get x

theorem Field.Takes.of {columns : List (Column α)} {key : String} {get : α → β} {form : Form β}
    {default? : Option β} {reader : Reader β} {put : β → α → α} {required : Bool}
    (hoptional : required = false → default?.isSome = true) (haccepts : reader.AcceptsOnly form)
    (hget : ∀ b x, get (put b x) = b)
    (hother : ∀ c ∈ columns, c.key ≠ key → ∀ b x, c.get (put b x) = c.get x) :
    (Field.of key reader put required).Takes columns { key, get, form, default? } where
  key := rfl
  optional := hoptional
  accepts := by
    intro s _ r hrun
    obtain ⟨before, v, hs, b, hb, rfl⟩ := Reader.map_acceptsOnly haccepts put hrun
    refine ⟨before, v, hs, fun x => ⟨?_, fun c hc hne => hother c hc hne b x⟩⟩
    simpa only [hget] using hb

theorem Schema.Fits.default_of_blank {sc : Schema α} {columns : List (Column α)} {c : Column α} {x : α}
    (h : sc.Fits columns) (hc : c ∈ columns) (hsome : c.default?.isSome = true)
    (hblank : c.get x = c.get sc.blank) : c.default? = some (c.get x) := by
  obtain ⟨b, hb⟩ := Option.isSome_iff_exists.mp hsome
  rw [hb, hblank, h.blank c hc b hb]

/-! ### Objects -/

namespace Column

variable {a blank x : α} {seen : List String} {e : String × Value} {es : List (String × Value)}
  {c : Column α}

theorem Keyed.cons (hform : c.form e.2 (c.get a)) (he : e.1 = c.key) (hes : ∀ e' ∈ es, e'.1 ≠ c.key) :
    c.Keyed a (e :: es) := by
  have hnil : es.filter (·.1 = c.key) = [] := by simpa [List.filter_eq_nil_iff] using hes
  rw [Keyed, List.filter_cons_of_pos (by simpa using he), hnil]
  exact hform

theorem Due.cons_of_ne (h : c.Due a blank x seen es) (he : e.1 ≠ c.key) :
    c.Due a blank x seen (e :: es) := by
  rcases h with ⟨hs, hes, hx⟩ | ⟨hs, hes, hx⟩
  · exact .inl ⟨hs, List.forall_mem_cons.mpr ⟨he, hes⟩, hx⟩
  · exact .inr ⟨hs, (keyed_cons_of_ne he).mpr hes, hx⟩

end Column

namespace Schema

variable {sc : Schema α} {columns due : List (Column α)} {a x : α} {seen seen' : List String}
  {key : String} {set : α → α}

def BlankBut (sc : Schema α) (columns : List (Column α)) (seen : List String) (x : α) : Prop :=
  ∀ c ∈ columns, c.key ∉ seen → c.get x = c.get sc.blank

/-- A member that is read is due: going back over it takes every field a step back. -/
theorem exists_of_member (hfits : sc.Fits columns)
    (htakes : List.Forall₂ (Field.Takes columns) sc.fields columns)
    (hblank : sc.BlankBut columns seen x) (h : sc.member seen key s = .ok ((seen', set), r)) :
    ∃ (afterKey before : Blanks) (v : Value),
      s = afterKey.text ++ ':' :: (before.text ++ (v.text ++ r)) ∧
      sc.BlankBut columns seen' (set x) ∧
      ∀ a es, (∀ c ∈ columns, c.Due a sc.blank (set x) seen' es) →
        ∀ c ∈ columns, c.Due a sc.blank x seen ((key, v) :: es) := by
  unfold member at h
  split at h
  · rename_i f hf
    split at h
    · cases h
    · rename_i hnew
      obtain ⟨⟨put, _⟩, hvalue, hpair⟩ := map_eq_ok h
      cases hpair
      obtain ⟨c, hc, htake⟩ := forall₂_exists htakes (List.mem_of_find?_eq_some hf)
      obtain rfl : c.key = key := htake.key.symm.trans (by simpa using List.find?_some hf)
      have hnew : c.key ∉ seen := by simpa using hnew
      obtain ⟨afterKey, before, v, htext, hv⟩ := exists_of_memberValue htake.accepts hvalue
      obtain ⟨hform, hother⟩ := hv x
      refine ⟨afterKey, before, v, htext, fun c' hc' hs => ?_, fun a es hdue c' hc' => ?_⟩
      · rw [List.mem_cons, not_or] at hs
        rw [hother c' hc' hs.1, hblank c' hc' hs.2]
      · -- A key names one column, so any other column is left as it was.
        by_cases hcc : c'.key = c.key
        · obtain rfl := hfits.eq_of_key hc' hc hcc
          rcases hdue c' hc' with ⟨-, hes, hx⟩ | ⟨hs, -⟩
          · exact .inr ⟨hnew, .cons (hx ▸ hform) rfl hes, hblank c' hc' hnew⟩
          · exact absurd List.mem_cons_self hs
        · refine Column.Due.cons_of_ne ?_ (Ne.symm hcc)
          simpa [Column.Due, hcc, hother c' hc' hcc] using hdue c' hc'
  · rename_i hf
    split at h
    · cases h
    · rename_i hcolon
      obtain ⟨_, hskip, hpair⟩ := map_eq_ok h
      cases hpair
      obtain ⟨afterKey, rfl⟩ := exists_of_colon hcolon
      obtain ⟨before, v, rfl⟩ := exists_value_of_skipValue hskip
      exact ⟨afterKey, before, v, rfl, hblank, fun a es hdue c hc =>
        (hdue c hc).cons_of_ne (hfits.ne_of_field?_eq_none hf hc)⟩

theorem due_nil_of_missing?_eq_none (hfits : sc.Fits columns)
    (htakes : List.Forall₂ (Field.Takes columns) sc.fields columns)
    (hblank : sc.BlankBut columns seen a) (h : sc.missing? seen = none) :
    ∀ c ∈ columns, c.Due a sc.blank a seen [] := by
  intro c hc
  by_cases hs : c.key ∈ seen
  · exact .inl ⟨hs, List.forall_mem_nil _, rfl⟩
  · obtain ⟨f, hf, htake⟩ := forall₂_exists htakes.flip hc
    rw [missing?, Option.map_eq_none_iff, List.find?_eq_none] at h
    have hoptional : f.required = false := by simpa [htake.key, hs] using h f hf
    exact .inr ⟨hs, Column.keyed_nil.mpr
      (hfits.default_of_blank hc (htake.optional hoptional) (hblank c hc hs)), hblank c hc hs⟩

theorem exists_members (hfits : sc.Fits columns)
    (htakes : List.Forall₂ (Field.Takes columns) sc.fields columns) {first : Bool}
    (hblank : sc.BlankBut columns seen x) (h : sc.members first seen x s = .ok (a, r)) :
    ∃ (b : Blanks) (members : List (Member Value)) (last : Blanks) (es : List (String × Value)),
      (first = true → b = ∅) ∧
      List.Forall₂ (fun m e => m.key.Spells e.1 ∧ m.value = e.2) members es ∧
      (∀ c ∈ columns, c.Due a sc.blank x seen es) ∧
      s = b.text ++ (Value.membersText first members last ++ r) := by
  fun_induction Schema.members sc first seen x s with
  | case1 | case3 | case4 => cases h
  | case2 first seen x s u hnone hmissing =>
    cases h
    obtain ⟨last, rfl⟩ := exists_of_nextKey_none hnone
    exact ⟨∅, [], last, [], fun _ => rfl, .nil,
      due_nil_of_missing?_eq_none hfits htakes hblank hmissing, by simp [Value.membersText]⟩
  | case5 first seen x s key t hkey seen' set u hmember _ ih =>
    obtain ⟨b, beforeKey, w, hb, hw, rfl⟩ := exists_of_nextKey_some hkey
    obtain ⟨afterKey, before, v, rfl, hblank', hback⟩ := exists_of_member hfits htakes hblank hmember
    obtain ⟨after, members, last, es, -, hes, hdue, rfl⟩ := ih hblank' h
    exact ⟨b, { before, value := v, after, beforeKey, key := w, afterKey } :: members, last,
      (key, v) :: es, hb, .cons ⟨hw, rfl⟩ hes, hback a es hdue, by simp [Value.membersText]⟩

/-! ### Arrays -/

theorem exists_of_closeArray (h : closeArray s = .ok r) : ∃ last : Blanks, s = last.text ++ ']' :: r := by
  unfold closeArray at h
  split at h
  · cases h
  · rename_i hs
    split at h
    · rename_i hc
      cases h
      exact exists_blanks (hc ▸ hs)
    · split at h <;> cases h

theorem listed_nil_of_findIdx?_eq_none (hfits : sc.Fits columns) (hsuffix : due <:+ columns)
    {fs : List (Field α)} (hfs : List.Forall₂ (Field.Takes columns) fs due)
    (hblank : ∀ c ∈ due, c.get a = c.get sc.blank) (h : fs.findIdx? (·.required) = none) :
    Column.Listed a due [] := by
  rw [Column.listed_nil]
  intro c hc
  obtain ⟨f, hf, htake⟩ := forall₂_exists hfs.flip hc
  have hoptional : f.required = false := List.findIdx?_eq_none_iff.mp h f hf
  exact hfits.default_of_blank (hsuffix.mem hc) (htake.optional hoptional) (hblank c hc)

theorem exists_of_positional (hfits : sc.Fits columns) {fs : List (Field α)}
    (hfs : List.Forall₂ (Field.Takes columns) fs due) (hsuffix : due <:+ columns)
    (hblank : ∀ c ∈ due, c.get x = c.get sc.blank) {count : Nat}
    (h : sc.positional count x fs s = .ok (a, r)) :
    ∃ (b : Blanks) (items : List (Item Value)) (last : Blanks), (count = 0 → b = ∅) ∧
      Column.Listed a due items ∧ (∀ c ∈ columns, c ∉ due → c.get a = c.get x) ∧
      s = b.text ++ (Value.itemsText (count = 0) items last ++ r) := by
  -- Along the fields due; those read before are not touched again.
  induction hfs generalizing count x s with
  | nil =>
    obtain ⟨_, hclose, hpair⟩ := map_eq_ok h
    cases hpair
    obtain ⟨last, rfl⟩ := exists_of_closeArray hclose
    exact ⟨∅, [], last, fun _ => rfl, trivial, fun _ _ _ => rfl, by simp [Value.itemsText]⟩
  | @cons f c fs due htake hfs ih =>
    have hc : c ∈ columns := hsuffix.mem List.mem_cons_self
    have hdue : due <:+ columns := (List.suffix_cons c due).trans hsuffix
    unfold positional at h
    split at h
    · cases h
    · rename_i hnext
      split at h
      · rename_i hrequired
        cases h
        obtain ⟨last, rfl⟩ := exists_of_nextElement_close hnext
        exact ⟨∅, [], last, fun _ => rfl,
          listed_nil_of_findIdx?_eq_none hfits hsuffix (.cons htake hfs) hblank hrequired,
          fun _ _ _ => rfl, by simp [Value.itemsText]⟩
      · cases h
    · rename_i hnext
      obtain ⟨b, before, hb, rfl⟩ := exists_of_nextElement_element hnext
      split at h
      · cases h
      · rename_i set u hset
        obtain ⟨before', v, rfl, hv⟩ := htake.accepts hset
        obtain ⟨hform, hother⟩ := hv x
        have hkey := hfits.key_ne_of_suffix hsuffix
        have hblank' : ∀ c' ∈ due, c'.get (set x) = c'.get sc.blank := fun c' hc' =>
          (hother c' (hdue.mem hc') (hkey c' hc')).trans (hblank c' (List.mem_cons_of_mem _ hc'))
        obtain ⟨after, items, last, -, hlisted, hread, rfl⟩ := ih hdue hblank' h
        refine ⟨b, { before := before ++ before', value := v, after } :: items, last, by simpa using hb,
          ⟨hread c hc (fun hmem => hkey c hmem rfl) ▸ hform, hlisted⟩, fun c' hc' hn => ?_,
          by simp [Value.itemsText]⟩
        rw [List.mem_cons, not_or] at hn
        rw [hread c' hc' hn.2, hother c' hc' fun hkey => hn.1 (hfits.eq_of_key hc' hc hkey)]

theorem Fits.acceptsOnly (h : sc.Fits columns)
    (htakes : List.Forall₂ (Field.Takes columns) sc.fields columns) :
    sc.reader.AcceptsOnly (RecordForm columns) := by
  intro s a r hrun
  change sc.run s = _ at hrun
  unfold run at hrun
  split at hrun
  · rename_i ho
    obtain ⟨before, rfl⟩ := exists_blanks_of_opening ho
    obtain ⟨b, members, last, es, hb, hes, hdue, rfl⟩ :=
      exists_members h htakes (fun _ _ _ => rfl) hrun
    refine ⟨before, .object members last, by simp [hb rfl, Value.text], .object hes fun c hc => ?_⟩
    rcases hdue c hc with ⟨hs, -⟩ | ⟨-, hkeyed, -⟩
    · cases hs
    · exact hkeyed
  · split at hrun
    · rename_i ho
      obtain ⟨before, rfl⟩ := exists_blanks_of_opening ho
      obtain ⟨b, items, last, hb, hlisted, -, rfl⟩ :=
        exists_of_positional h htakes (List.suffix_refl _) (fun _ _ => rfl) hrun
      exact ⟨before, .array items last, by simp [hb rfl, Value.text], .array hlisted⟩
    · cases hrun

end Schema

end Portrait.Json
