import Mathlib.Data.List.Nodup
import Portrait.Json.Record
import Portrait.Proofs.Json.Reader

/-! Which values stand for a record, and that a schema reads all of them. -/

namespace Portrait.Json

structure Column (α : Type) where
  key : String
  {β : Type}
  get : α → β
  form : Form β
  default? : Option β := none

variable {α β γ : Type}

namespace Column

def Keyed (a : α) (es : List (String × Value)) (c : Column α) : Prop :=
  match es.filter (·.1 = c.key) with
  | [] => c.default? = some (c.get a)
  | [e] => c.form e.2 (c.get a)
  | _ => False

def Listed (a : α) : List (Column α) → List (Item Value) → Prop
  | [], [] => True
  | [], _ :: _ => False
  | c :: cs, [] => c.default? = some (c.get a) ∧ Listed a cs []
  | c :: cs, i :: items => c.form i.value (c.get a) ∧ Listed a cs items

end Column

/-- A record is written as an object, with its fields in any order among members of other keys, or as
an array of its fields. -/
inductive RecordForm (columns : List (Column α)) : Form α
  | object : List.Forall₂ (fun m e => m.key.Spells e.1 ∧ m.value = e.2) members es →
      (∀ c ∈ columns, c.Keyed a es) → RecordForm columns (.object members last) a
  | array : Column.Listed a columns items → RecordForm columns (.array items last) a

theorem Reader.map_reads {reader : Reader β} {F : Form β} (h : reader.Reads F) (f : β → γ) :
    (reader.map f).Reads fun v c => ∃ b, F v b ∧ f b = c := by
  rintro v _ ⟨b, hb, rfl⟩ before rest hrest
  simp only [Reader.map, h hb before hrest]

structure Field.Puts (columns : List (Column α)) (f : Field α) (c : Column α) (put : c.β → α → α) :
    Prop where
  key : f.key = c.key
  required : f.required = true → c.default? = none
  reads : f.value.Reads fun v set => ∃ b, c.form v b ∧ put b = set
  get_put : ∀ b x, c.get (put b x) = b
  get_put_of_ne : ∀ c' ∈ columns, c'.key ≠ c.key → ∀ b x, c'.get (put b x) = c'.get x

def Field.Fits (columns : List (Column α)) (f : Field α) (c : Column α) : Prop :=
  ∃ put, f.Puts columns c put

theorem Field.Fits.of {columns : List (Column α)} {key : String} {get : α → β} {form : Form β}
    {default? : Option β} {reader : Reader β} {put : β → α → α} {required : Bool}
    (hrequired : required = true → default? = none) (hreads : reader.Reads form)
    (hget : ∀ b x, get (put b x) = b)
    (hother : ∀ c ∈ columns, c.key ≠ key → ∀ b x, c.get (put b x) = c.get x) :
    (Field.of key reader put required).Fits columns { key, get, form, default? } :=
  ⟨put, rfl, hrequired, Reader.map_reads hreads put, hget, hother⟩

/-- The columns say what the schema reads: there is one for each field, the blank record holds the
defaults, and a record is what its columns show. -/
structure Schema.Fits (sc : Schema α) (columns : List (Column α)) : Prop where
  fields : List.Forall₂ (Field.Fits columns) sc.fields columns
  nodup : (columns.map (·.key)).Nodup
  blank : ∀ c ∈ columns, ∀ b, c.default? = some b → c.get sc.blank = b
  ext : ∀ a a', (∀ c ∈ columns, c.get a = c.get a') → a = a'

theorem forall₂_exists {α : Type u} {β : Type v} {R : α → β → Prop} {as : List α} {bs : List β}
    (h : List.Forall₂ R as bs) {a : α} (ha : a ∈ as) : ∃ b ∈ bs, R a b := by
  induction h with
  | nil => cases ha
  | cons hr _ ih =>
    rcases List.mem_cons.mp ha with rfl | ha
    · exact ⟨_, List.mem_cons_self, hr⟩
    · obtain ⟨b, hb, hr⟩ := ih ha
      exact ⟨b, List.mem_cons_of_mem _ hb, hr⟩

namespace Schema

variable {sc : Schema α} {columns : List (Column α)} {a x : α} {seen : List String}

namespace Fits

theorem keys_eq (h : sc.Fits columns) : sc.fields.map (·.key) = columns.map (·.key) :=
  List.forall₂_eq_eq_eq ▸ List.forall₂_map_left_iff.mpr
    (List.forall₂_map_right_iff.mpr (h.fields.imp fun _ _ ⟨_, hf⟩ => hf.key))

theorem eq_of_key (h : sc.Fits columns) {c c' : Column α} (hc : c ∈ columns) (hc' : c' ∈ columns)
    (hkey : c.key = c'.key) : c = c' :=
  List.inj_on_of_nodup_map h.nodup hc hc' hkey

theorem key_ne_of_suffix (h : sc.Fits columns) {c : Column α} {due : List (Column α)}
    (hsuffix : c :: due <:+ columns) : ∀ c' ∈ due, c'.key ≠ c.key := by
  have hnodup : ((c :: due).map (·.key)).Nodup := h.nodup.sublist (hsuffix.sublist.map _)
  intro c' hc' hkey
  exact (List.nodup_cons.mp hnodup).1 (List.mem_map.mpr ⟨c', hc', hkey⟩)

theorem ne_of_field?_eq_none (h : sc.Fits columns) {key : String} (hf : sc.field? key = none)
    {c : Column α} (hc : c ∈ columns) : key ≠ c.key := by
  have hmem : c.key ∈ sc.fields.map (·.key) := h.keys_eq ▸ List.mem_map_of_mem hc
  obtain ⟨f, hfm, hfk⟩ := List.mem_map.mp hmem
  have := List.find?_eq_none.mp hf f hfm
  rw [← hfk]
  simpa [eq_comm] using this

end Fits

end Schema

/-! ### Objects -/

/-- Where a field stands while the members of an object are read: it was read, or it is still blank
and the members to come show it. -/
def Column.Due (a blank x : α) (seen : List String) (es : List (String × Value)) (c : Column α) : Prop :=
  (c.key ∈ seen ∧ (∀ e ∈ es, e.1 ≠ c.key) ∧ c.get x = c.get a) ∨
    (c.key ∉ seen ∧ c.Keyed a es ∧ c.get x = c.get blank)

namespace Column

variable {a blank x : α} {seen : List String} {e : String × Value} {es : List (String × Value)}
  {c : Column α}

theorem keyed_nil : c.Keyed a [] ↔ c.default? = some (c.get a) := Iff.rfl

theorem keyed_cons_of_ne (h : e.1 ≠ c.key) : c.Keyed a (e :: es) ↔ c.Keyed a es := by
  simp [Keyed, h]

theorem Keyed.of_cons (h : c.Keyed a (e :: es)) (he : e.1 = c.key) :
    c.form e.2 (c.get a) ∧ ∀ e' ∈ es, e'.1 ≠ c.key := by
  rw [Keyed, List.filter_cons_of_pos (by simpa using he)] at h
  split at h
  · simp_all
  · rename_i heq
    obtain ⟨rfl, hnil⟩ := List.cons.inj heq
    exact ⟨h, by simpa [List.filter_eq_nil_iff] using hnil⟩
  · cases h

theorem Due.of_cons_of_ne (h : c.Due a blank x seen (e :: es)) (he : e.1 ≠ c.key) :
    c.Due a blank x seen es := by
  rcases h with ⟨hs, hes, hx⟩ | ⟨hs, hes, hx⟩
  · exact .inl ⟨hs, fun e' he' => hes e' (List.mem_cons_of_mem _ he'), hx⟩
  · exact .inr ⟨hs, (keyed_cons_of_ne he).mp hes, hx⟩

end Column

namespace Schema

variable {sc : Schema α} {columns : List (Column α)} {a x : α} {seen : List String}

namespace Fits

theorem eq_of_due_nil (h : sc.Fits columns) (hdue : ∀ c ∈ columns, c.Due a sc.blank x seen []) :
    x = a := by
  apply h.ext
  intro c hc
  rcases hdue c hc with ⟨_, _, hx⟩ | ⟨_, hdefault, hx⟩
  · exact hx
  · rw [hx, h.blank c hc _ (Column.keyed_nil.mp hdefault)]

theorem missing?_eq_none (h : sc.Fits columns)
    (hdue : ∀ c ∈ columns, c.Due a sc.blank x seen []) : sc.missing? seen = none := by
  rw [missing?, Option.map_eq_none_iff, List.find?_eq_none]
  intro f hf hmiss
  obtain ⟨c, hc, put, hfit⟩ := forall₂_exists h.fields hf
  simp only [Bool.and_eq_true, Bool.not_eq_true', List.contains_eq_mem, decide_eq_false_iff_not,
    hfit.key] at hmiss
  rcases hdue c hc with ⟨hs, _⟩ | ⟨_, hdefault, _⟩
  · exact hmiss.2 hs
  · rw [Column.keyed_nil, hfit.required hmiss.1] at hdefault
    cases hdefault

end Fits

theorem members_end {first : Bool} {s r : List Char} (h : nextKey first s = .ok (none, r))
    (hmissing : sc.missing? seen = none) : sc.members first seen x s = .ok (x, r) := by
  rw [members.eq_def]
  split
  · simp_all
  · rename_i h'
    cases h.symm.trans h'
    simp only [hmissing]
  · simp_all

theorem members_member {first : Bool} {key : String} {s t r : List Char} {seen' : List String}
    {set : α → α} (h : nextKey first s = .ok (some key, t))
    (ht : sc.member seen key t = .ok ((seen', set), r)) :
    sc.members first seen x s = sc.members false seen' (set x) r := by
  rw [members.eq_def]
  split
  · simp_all
  · simp_all
  · rename_i h'
    cases h.symm.trans h'
    split
    · simp_all
    · rename_i ht'
      cases ht.symm.trans ht'
      rfl

theorem member_text (hfits : sc.Fits columns) (m : Member Value) (key : String)
    {es : List (String × Value)} (hdue : ∀ c ∈ columns, c.Due a sc.blank x seen ((key, m.value) :: es))
    (members : List (Member Value)) (last : Blanks) (rest : List Char) :
    ∃ seen' set, sc.member seen key (Json.afterKey m members last rest) =
        .ok ((seen', set), m.after.text ++ (Value.membersText false members last ++ rest)) ∧
      ∀ c ∈ columns, c.Due a sc.blank (set x) seen' es := by
  have hdelim := Delimited.blanks m.after (Value.delimited_membersText members last rest)
  cases hf : sc.field? key with
  | none =>
    refine ⟨seen, id, ?_, fun c hc => (hdue c hc).of_cons_of_ne (hfits.ne_of_field?_eq_none hf hc)⟩
    rw [member, hf, Json.afterKey]
    simp only [colon_append, skipValue_text m.value m.before hdelim, Except.map]
  | some f =>
    have hkey : f.key = key := by simpa using List.find?_some hf
    obtain ⟨c, hc, put, hfit⟩ := forall₂_exists hfits.fields (List.mem_of_find?_eq_some hf)
    have hck : key = c.key := hkey.symm.trans hfit.key
    obtain ⟨hnew, hform, hrest⟩ : c.key ∉ seen ∧ c.form m.value (c.get a) ∧ ∀ e ∈ es, e.1 ≠ c.key := by
      rcases hdue c hc with ⟨_, hes, _⟩ | ⟨hs, hes, _⟩
      · exact absurd hck (hes _ List.mem_cons_self)
      · exact ⟨hs, hes.of_cons hck⟩
    refine ⟨key :: seen, put (c.get a), ?_, ?_⟩
    · have hvalue := memberValue_text (b := put (c.get a)) hfit.reads ⟨_, hform, rfl⟩ members last rest
      have hseen : seen.contains key = false := by simp [hck, hnew]
      simp only [member, hf, hseen, hvalue, Except.map, Bool.false_eq_true, if_false]
    · intro c' hc'
      -- A key names one column, so any other column is left as it was.
      by_cases hcc : c'.key = c.key
      · obtain rfl := hfits.eq_of_key hc' hc hcc
        exact .inl ⟨hck ▸ List.mem_cons_self, hrest, hfit.get_put _ x⟩
      · have hput := hfit.get_put_of_ne c' hc' hcc (c.get a) x
        rw [Column.Due, hput, hck]
        simpa [Column.Due, hcc] using (hdue c' hc').of_cons_of_ne (hck ▸ Ne.symm hcc)

theorem members_text (hfits : sc.Fits columns) {members : List (Member Value)}
    {es : List (String × Value)}
    (h : List.Forall₂ (fun m e => m.key.Spells e.1 ∧ m.value = e.2) members es)
    (hdue : ∀ c ∈ columns, c.Due a sc.blank x seen es) (first : Bool) (b last : Blanks)
    (rest : List Char) :
    sc.members first seen x (b.text ++ (Value.membersText first members last ++ rest)) =
      .ok (a, rest) := by
  -- Along the members; where each field stands is what one of them changes.
  induction h generalizing first b x seen with
  | nil =>
    rw [members_end (nextKey_nil first b last rest) (hfits.missing?_eq_none hdue),
      hfits.eq_of_due_nil hdue]
  | @cons m e members es he _ ih =>
    obtain ⟨hkey, hvalue⟩ := he
    obtain ⟨seen', set, hmember, hdue'⟩ := member_text hfits m e.1
      (by simpa [hvalue] using hdue) members last rest
    rw [members_member (nextKey_cons first b hkey members last rest) hmember]
    exact ih hdue' false m.after

end Schema

/-! ### Arrays -/

theorem Column.listed_nil {a : α} {cs : List (Column α)} :
    Listed a cs [] ↔ ∀ c ∈ cs, c.default? = some (c.get a) := by
  induction cs with
  | nil => simp [Listed]
  | cons c cs ih => simp [Listed, ih]

namespace Schema

variable {sc : Schema α} {columns : List (Column α)} {a x : α}

structure Awaits (sc : Schema α) (columns due : List (Column α)) (a x : α) : Prop where
  suffix : due <:+ columns
  read : ∀ c ∈ columns, c ∉ due → c.get x = c.get a
  blank : ∀ c ∈ due, c.get x = c.get sc.blank

theorem closeArray_text (first : Bool) (b last : Blanks) (rest : List Char) :
    closeArray (b.text ++ (Value.itemsText first [] last ++ rest)) = .ok rest := by
  simp [closeArray, Value.itemsText]

namespace Awaits

variable {c : Column α} {due : List (Column α)}

theorem all (sc : Schema α) (columns : List (Column α)) (a : α) :
    sc.Awaits columns columns a sc.blank :=
  ⟨List.suffix_refl _, fun _ hc hn => absurd hc hn, fun _ _ => rfl⟩

theorem eq_of_listed_nil (hfits : sc.Fits columns) (h : sc.Awaits columns due a x)
    (hdue : Column.Listed a due []) : x = a := by
  apply hfits.ext
  intro c hc
  by_cases hcd : c ∈ due
  · rw [h.blank c hcd, hfits.blank c hc _ (Column.listed_nil.mp hdue c hcd)]
  · exact h.read c hc hcd

theorem put (hfits : sc.Fits columns) (h : sc.Awaits columns (c :: due) a x) {f : Field α}
    {put : c.β → α → α} (hf : f.Puts columns c put) :
    sc.Awaits columns due a (put (c.get a) x) where
  suffix := (List.suffix_cons c due).trans h.suffix
  read c' hc' hn := by
    have hc : c ∈ columns := h.suffix.mem List.mem_cons_self
    by_cases hkey : c'.key = c.key
    · rw [hfits.eq_of_key hc' hc hkey, hf.get_put]
    · rw [hf.get_put_of_ne c' hc' hkey]
      refine h.read c' hc' fun hmem => ?_
      rcases List.mem_cons.mp hmem with rfl | hmem
      · exact hkey rfl
      · exact hn hmem
  blank c' hc' := by
    have hmem : c' ∈ c :: due := List.mem_cons_of_mem _ hc'
    rw [hf.get_put_of_ne c' (h.suffix.mem hmem) (hfits.key_ne_of_suffix h.suffix c' hc')]
    exact h.blank c' hmem

end Awaits

theorem findIdx?_required_eq_none {fs : List (Field α)} {due : List (Column α)}
    (hfs : List.Forall₂ (Field.Fits columns) fs due)
    (hdue : Column.Listed a due []) : fs.findIdx? (·.required) = none := by
  rw [List.findIdx?_eq_none_iff]
  intro f hf
  obtain ⟨c, hc, put, hfit⟩ := forall₂_exists hfs hf
  by_contra hrequired
  have hdefault := Column.listed_nil.mp hdue c hc
  rw [hfit.required (by simpa using hrequired)] at hdefault
  cases hdefault

theorem positional_close {count : Nat} {f : Field α} {fs : List (Field α)} {s r : List Char}
    (h : nextElement (count = 0) s = .ok (.close r))
    (hrequired : (f :: fs).findIdx? (·.required) = none) :
    sc.positional count x (f :: fs) s = .ok (x, r) := by
  simp only [positional, h, hrequired]

theorem positional_element {count : Nat} {f : Field α} {fs : List (Field α)} {s t r : List Char}
    {set : α → α} (h : nextElement (count = 0) s = .ok (.element t))
    (ht : f.value.run t = .ok (set, r)) :
    sc.positional count x (f :: fs) s = sc.positional (count + 1) (set x) fs r := by
  simp only [positional, h, ht]

theorem positional_text (hfits : sc.Fits columns) {fs : List (Field α)} {due : List (Column α)}
    (hfs : List.Forall₂ (Field.Fits columns) fs due)
    (hx : sc.Awaits columns due a x) {items : List (Item Value)} (hitems : Column.Listed a due items)
    (count : Nat) (b last : Blanks) (rest : List Char) :
    sc.positional count x fs (b.text ++ (Value.itemsText (count = 0) items last ++ rest)) =
      .ok (a, rest) := by
  -- Along the fields due; the array may end before any of them.
  induction hfs generalizing items count b x with
  | nil =>
    cases items with
    | nil =>
      rw [positional, closeArray_text, hx.eq_of_listed_nil hfits hitems]
      rfl
    | cons => cases hitems
  | @cons f c fs due hf hfs ih =>
    cases items with
    | nil =>
      rw [positional_close (nextElement_nil _ b last rest)
        (findIdx?_required_eq_none (.cons hf hfs) hitems), hx.eq_of_listed_nil hfits hitems]
    | cons i items =>
      obtain ⟨put, hput⟩ := hf
      have hdelim := Delimited.blanks i.after (Value.delimited_itemsText items last rest)
      rw [positional_element (nextElement_cons _ b i items last rest)
        (hput.reads ⟨_, hitems.1, rfl⟩ ∅ hdelim)]
      exact ih (hx.put hfits hput) hitems.2 (count + 1) i.after

theorem Fits.reads (h : sc.Fits columns) : sc.reader.Reads (RecordForm columns) := by
  intro v a hform b rest _
  change sc.run _ = _
  cases hform with
  | object hes hkeyed =>
    rw [Value.text, List.cons_append, run, opening_cons b (by decide)]
    exact members_text h hes (fun c hc => .inr ⟨List.not_mem_nil, hkeyed c hc, rfl⟩) true ∅ _ rest
  | array hitems =>
    rw [Value.text, List.cons_append, run, opening_of_ne b (by decide) (by decide),
      opening_cons b (by decide)]
    exact positional_text h h.fields (.all sc columns a) hitems 0 ∅ _ rest

end Schema

end Portrait.Json
