/-! Finite maps keyed by names, listed in strictly increasing order of the name. -/

namespace Portrait

structure SortedMap (α : Type) where
  entries : List (String × α)
  sorted : entries.Pairwise (·.1 < ·.1)
  deriving DecidableEq

namespace SortedMap

variable {α : Type}

def insertEntry (k : String) (v : α) : List (String × α) → List (String × α)
  | [] => [(k, v)]
  | e :: es =>
    if k < e.1 then (k, v) :: e :: es
    else if k = e.1 then (k, v) :: es
    else e :: insertEntry k v es

theorem mem_insertEntry {k : String} {v : α} {x : String × α} {es : List (String × α)}
    (h : x ∈ insertEntry k v es) : x = (k, v) ∨ x ∈ es := by
  induction es with
  | nil => simpa [insertEntry] using h
  | cons e es ih =>
    rw [insertEntry] at h
    split at h
    · exact List.mem_cons.mp h
    · split at h
      · exact (List.mem_cons.mp h).imp_right (List.mem_cons_of_mem _)
      · rcases List.mem_cons.mp h with h | h
        · exact .inr (h ▸ List.mem_cons_self)
        · exact (ih h).imp_right (List.mem_cons_of_mem _)

theorem lt_of_not_lt_of_ne {a b : String} (h : ¬ a < b) (hne : ¬ a = b) : b < a :=
  Decidable.byContradiction fun h' => hne (String.le_antisymm (String.not_lt.mp h') (String.not_lt.mp h))

theorem pairwise_insertEntry (k : String) (v : α) {es : List (String × α)}
    (h : es.Pairwise (·.1 < ·.1)) : (insertEntry k v es).Pairwise (·.1 < ·.1) := by
  induction es with
  | nil => simp [insertEntry]
  | cons e es ih =>
    obtain ⟨he, hes⟩ := List.pairwise_cons.mp h
    rw [insertEntry]
    split
    · rename_i hk
      refine List.pairwise_cons.mpr ⟨fun x hx => ?_, h⟩
      rcases List.mem_cons.mp hx with rfl | hx
      · exact hk
      · exact String.lt_trans hk (he x hx)
    · split
      · rename_i hk
        subst hk
        exact List.pairwise_cons.mpr ⟨he, hes⟩
      · rename_i hlt hne
        refine List.pairwise_cons.mpr ⟨fun x hx => ?_, ih hes⟩
        rcases mem_insertEntry hx with rfl | hx
        · exact lt_of_not_lt_of_ne hlt hne
        · exact he x hx

def empty : SortedMap α := ⟨[], .nil⟩

instance : EmptyCollection (SortedMap α) := ⟨empty⟩
instance : Inhabited (SortedMap α) := ⟨empty⟩

def insert (m : SortedMap α) (k : String) (v : α) : SortedMap α :=
  ⟨insertEntry k v m.entries, pairwise_insertEntry k v m.sorted⟩

def get? (m : SortedMap α) (k : String) : Option α := m.entries.lookup k

def contains (m : SortedMap α) (k : String) : Bool := (m.get? k).isSome

def keys (m : SortedMap α) : List String := m.entries.map (·.1)

def size (m : SortedMap α) : Nat := m.entries.length

def filter (p : String → Bool) (m : SortedMap α) : SortedMap α :=
  ⟨m.entries.filter (p ·.1), m.sorted.filter _⟩

def insertAll (m : SortedMap α) (es : List (String × α)) : SortedMap α :=
  es.foldl (fun m e => m.insert e.1 e.2) m

def ofList (es : List (String × α)) : SortedMap α := (∅ : SortedMap α).insertAll es

end SortedMap

def sortedNames (names : List String) : List String :=
  (SortedMap.ofList (names.map (·, ()))).keys

end Portrait
