import Mathlib.Data.List.Nodup
import Portrait.SortedMap

/-! Looking up names in maps: what each operation does to `get?` and to the keys. -/

namespace Portrait

namespace SortedMap

variable {α β : Type}

theorem lookup_cons_eq_ite (e : String × α) (es : List (String × α)) (x : String) :
    (e :: es).lookup x = if x = e.1 then some e.2 else es.lookup x := by
  rw [List.lookup_cons]
  by_cases h : x = e.1
  · simp [h]
  · simp only [h, if_false, beq_eq_false_iff_ne.mpr h]

theorem mem_keys_iff_lookup (es : List (String × α)) (k : String) :
    k ∈ es.map (·.1) ↔ (es.lookup k).isSome = true := by
  induction es with
  | nil => simp
  | cons e es ih =>
    rw [lookup_cons_eq_ite, List.map_cons, List.mem_cons, ih]
    by_cases h : k = e.1 <;> simp [h]

theorem contains_iff_mem_keys {m : SortedMap α} {k : String} :
    m.contains k = true ↔ k ∈ m.keys :=
  (mem_keys_iff_lookup m.entries k).symm

theorem contains_eq_false_iff {m : SortedMap α} {k : String} :
    m.contains k = false ↔ m.get? k = none := by
  simp [contains]

theorem contains_eq_true_iff {m : SortedMap α} {k : String} :
    m.contains k = true ↔ ∃ v, m.get? k = some v := by
  simp [contains, Option.isSome_iff_exists]

theorem lookup_eq_some_iff {es : List (String × α)} (h : (es.map (·.1)).Nodup) {k : String} {v : α} :
    es.lookup k = some v ↔ (k, v) ∈ es := by
  induction es with
  | nil => simp
  | cons e es ih =>
    obtain ⟨he, hes⟩ := List.nodup_cons.mp h
    rw [lookup_cons_eq_ite, List.mem_cons, Prod.ext_iff]
    by_cases hk : k = e.1
    · subst hk
      have hnot : (e.1, v) ∉ es := fun hmem => he (List.mem_map.mpr ⟨_, hmem, rfl⟩)
      simp [hnot, eq_comm]
    · simp [hk, ih hes]

theorem nodup_of_pairwise_lt {names : List String} (h : names.Pairwise (· < ·)) : names.Nodup := by
  apply h.imp
  intro a b hlt heq
  exact String.lt_irrefl b (heq ▸ hlt)

theorem pairwise_keys (m : SortedMap α) : m.keys.Pairwise (· < ·) := List.pairwise_map.mpr m.sorted

theorem nodup_keys (m : SortedMap α) : (m.entries.map (·.1)).Nodup :=
  nodup_of_pairwise_lt m.pairwise_keys

theorem ext_get? {m m' : SortedMap α} (h : ∀ k, m.get? k = m'.get? k) : m = m' := by
  have hmem (e : String × α) : e ∈ m.entries ↔ e ∈ m'.entries := by
    rw [← lookup_eq_some_iff m.nodup_keys, ← lookup_eq_some_iff m'.nodup_keys]
    exact iff_of_eq (congrArg (· = some e.2) (h e.1))
  have hperm : m.entries.Perm m'.entries :=
    (List.perm_ext_iff_of_nodup (List.Nodup.of_map _ m.nodup_keys)
      (List.Nodup.of_map _ m'.nodup_keys)).mpr hmem
  have heq : m.entries = m'.entries :=
    hperm.eq_of_pairwise (fun _ _ _ _ hab hba => absurd (String.lt_trans hab hba) (String.lt_irrefl _))
      m.sorted m'.sorted
  cases m
  cases m'
  cases heq
  rfl

@[simp] theorem get?_empty (k : String) : (∅ : SortedMap α).get? k = none := rfl

@[simp] theorem contains_empty (k : String) : (∅ : SortedMap α).contains k = false := rfl

theorem lookup_insertEntry (k : String) (v : α) (es : List (String × α)) (x : String) :
    (insertEntry k v es).lookup x = if x = k then some v else es.lookup x := by
  induction es with
  | nil => rw [insertEntry, lookup_cons_eq_ite]
  | cons e es ih =>
    rw [insertEntry]
    split
    · rw [lookup_cons_eq_ite]
    · split
      · rename_i he
        subst he
        simp only [lookup_cons_eq_ite]
        split <;> rfl
      · rename_i _ hne
        simp only [lookup_cons_eq_ite, ih]
        by_cases h : x = e.1
        · simp [h, Ne.symm hne]
        · simp [h]

theorem get?_insert (m : SortedMap α) (k : String) (v : α) (x : String) :
    (m.insert k v).get? x = if x = k then some v else m.get? x :=
  lookup_insertEntry k v m.entries x

@[simp] theorem contains_insert (m : SortedMap α) (k : String) (v : α) (x : String) :
    (m.insert k v).contains x = true ↔ x = k ∨ m.contains x = true := by
  by_cases h : x = k <;> simp [contains, get?_insert, h]

theorem contains_insertAll (m : SortedMap α) (es : List (String × α)) (x : String) :
    (m.insertAll es).contains x = true ↔ x ∈ es.map (·.1) ∨ m.contains x = true := by
  induction es generalizing m with
  | nil => simp [insertAll]
  | cons e es ih =>
    rw [insertAll, List.foldl_cons]
    rw [show es.foldl _ (m.insert e.1 e.2) = (m.insert e.1 e.2).insertAll es from rfl, ih]
    simp [or_left_comm, or_assoc]

theorem get?_insertAll (m : SortedMap α) (es : List (String × α)) (x : String) :
    (m.insertAll es).get? x = (es.reverse.lookup x).or (m.get? x) := by
  induction es generalizing m with
  | nil => rfl
  | cons e es ih =>
    rw [insertAll, List.foldl_cons, ← insertAll, ih, get?_insert, List.reverse_cons,
      List.lookup_append, lookup_cons_eq_ite]
    by_cases h : x = e.1 <;> simp [h]

theorem lookup_eq_none_of_not_mem {es : List (String × α)} {k : String} (h : k ∉ es.map (·.1)) :
    es.lookup k = none :=
  Option.not_isSome_iff_eq_none.mp (mt (mem_keys_iff_lookup es k).mpr h)

theorem get?_insertAll_of_last {m : SortedMap α} {before after : List (String × α)} {k : String} {v : α}
    (h : k ∉ after.map (·.1)) : (m.insertAll (before ++ (k, v) :: after)).get? k = some v := by
  rw [get?_insertAll, List.reverse_append, List.reverse_cons, List.append_assoc, List.lookup_append,
    lookup_eq_none_of_not_mem (by simpa using h), Option.none_or, List.singleton_append,
    lookup_cons_eq_ite, if_pos rfl, Option.some_or]

theorem get?_insertAll_tabulate (m : SortedMap α) (names : List String) (f : String → α) (x : String) :
    (m.insertAll (names.map fun k => (k, f k))).get? x = if x ∈ names then some (f x) else m.get? x := by
  induction names generalizing m with
  | nil => rfl
  | cons k names ih =>
    rw [List.map_cons, insertAll, List.foldl_cons, ← insertAll, ih, get?_insert]
    by_cases hx : x = k <;> simp [hx]

theorem lookup_perm {es fs : List (String × α)} (h : es.Perm fs) (hnodup : (fs.map (·.1)).Nodup)
    (x : String) : es.lookup x = fs.lookup x := by
  have hes : (es.map (·.1)).Nodup := (h.map _).nodup_iff.mpr hnodup
  apply Option.ext
  intro v
  rw [lookup_eq_some_iff hes, lookup_eq_some_iff hnodup, h.mem_iff]

theorem lookup_of_perm {m : SortedMap α} {es : List (String × α)} (h : es.Perm m.entries) (x : String) :
    es.lookup x = m.get? x :=
  lookup_perm h m.nodup_keys x

theorem insertAll_perm (m : SortedMap α) {es fs : List (String × α)} (h : es.Perm fs)
    (hnodup : (fs.map (·.1)).Nodup) : m.insertAll es = m.insertAll fs := by
  have hreverse : es.reverse.Perm fs.reverse := es.reverse_perm.trans (h.trans fs.reverse_perm.symm)
  apply ext_get?
  intro x
  rw [get?_insertAll, get?_insertAll, lookup_perm hreverse (by simpa using hnodup)]

theorem ofList_perm {m : SortedMap α} {es : List (String × α)} (h : es.Perm m.entries) :
    ofList es = m := by
  apply ext_get?
  intro x
  rw [ofList, get?_insertAll, get?_empty, Option.or_none, lookup_of_perm (es.reverse_perm.trans h)]

theorem get?_insertAll_entries (m m' : SortedMap α) (x : String) :
    (m.insertAll m'.entries).get? x = (m'.get? x).or (m.get? x) := by
  rw [get?_insertAll, lookup_of_perm (m'.entries.reverse_perm)]

theorem lookup_filter (keep : String → Bool) (es : List (String × α)) (x : String) :
    (es.filter (keep ·.1)).lookup x = if keep x = true then es.lookup x else none := by
  induction es with
  | nil => simp
  | cons e es ih =>
    rw [List.filter_cons, lookup_cons_eq_ite]
    by_cases hx : x = e.1
    · subst hx
      by_cases hk : keep e.1 = true
      · simp [hk, lookup_cons_eq_ite]
      · simp only [hk, ih, Bool.false_eq_true, if_false]
    · rw [if_neg hx, ← ih]
      split
      · rw [lookup_cons_eq_ite, if_neg hx]
      · rfl

theorem get?_filter (m : SortedMap α) (keep : String → Bool) (x : String) :
    (m.filter keep).get? x = if keep x = true then m.get? x else none :=
  lookup_filter keep m.entries x

def mapValues (f : α → β) (m : SortedMap α) : SortedMap β :=
  ⟨m.entries.map fun e => (e.1, f e.2), List.pairwise_map.mpr m.sorted⟩

theorem lookup_map (f : α → β) (es : List (String × α)) (x : String) :
    (es.map fun e => (e.1, f e.2)).lookup x = (es.lookup x).map f := by
  induction es with
  | nil => rfl
  | cons e es ih =>
    rw [List.map_cons, lookup_cons_eq_ite, lookup_cons_eq_ite, ih]
    split <;> rfl

theorem get?_mapValues (f : α → β) (m : SortedMap α) (x : String) :
    (m.mapValues f).get? x = (m.get? x).map f :=
  lookup_map f m.entries x

@[simp] theorem contains_mapValues (f : α → β) (m : SortedMap α) (x : String) :
    (m.mapValues f).contains x = m.contains x := by
  rw [contains, get?_mapValues, Option.isSome_map, contains]

theorem insertAll_comm (m : SortedMap α) {es fs : List (String × α)}
    (h : (es.map (·.1)).Disjoint (fs.map (·.1))) :
    (m.insertAll es).insertAll fs = (m.insertAll fs).insertAll es := by
  apply ext_get?
  intro x
  simp only [get?_insertAll]
  by_cases hx : x ∈ es.map (·.1)
  · have hfs : fs.reverse.lookup x = none := lookup_eq_none_of_not_mem (by simpa using h hx)
    simp [hfs]
  · have hes : es.reverse.lookup x = none := lookup_eq_none_of_not_mem (by simpa using hx)
    simp [hes]

end SortedMap

theorem mem_sortedNames {names : List String} {x : String} : x ∈ sortedNames names ↔ x ∈ names := by
  rw [sortedNames, ← SortedMap.contains_iff_mem_keys, SortedMap.ofList, SortedMap.contains_insertAll]
  simp

theorem sortedNames_eq {names sorted : List String} (hsorted : sorted.Pairwise (· < ·))
    (h : ∀ x, x ∈ names ↔ x ∈ sorted) : sortedNames names = sorted := by
  have hnames : (sortedNames names).Pairwise (· < ·) := SortedMap.pairwise_keys _
  have hperm : (sortedNames names).Perm sorted :=
    (List.perm_ext_iff_of_nodup (SortedMap.nodup_of_pairwise_lt hnames)
      (SortedMap.nodup_of_pairwise_lt hsorted)).mpr fun x => by rw [mem_sortedNames, h]
  exact hperm.eq_of_pairwise
    (fun _ _ _ _ hab hba => absurd (String.lt_trans hab hba) (String.lt_irrefl _)) hnames hsorted

theorem sortedNames_congr {names names' : List String} (h : ∀ x, x ∈ names ↔ x ∈ names') :
    sortedNames names = sortedNames names' :=
  sortedNames_eq (SortedMap.pairwise_keys _) fun x => by rw [mem_sortedNames, h]

end Portrait
