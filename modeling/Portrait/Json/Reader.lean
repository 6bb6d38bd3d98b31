import Portrait.Json.Skip
import Portrait.SortedMap

/-! Readers of typed values.  The text is read once from left to right, and the first fault counts. -/

namespace Portrait.Json

structure Reader (α : Type) where
  run : List Char → Except Fault (α × List Char)
  length_lt : ∀ {s a r}, run s = .ok (a, r) → r.length < s.length

namespace Reader

def map {α β : Type} (f : α → β) (reader : Reader α) : Reader β where
  run s := match reader.run s with
    | .error e => .error e
    | .ok (a, r) => .ok (f a, r)
  length_lt {s b r} h := by
    split at h
    · cases h
    · rename_i hr
      cases h
      exact reader.length_lt hr

end Reader

def mismatch (expected : String) (s : List Char) : Fault :=
  let found (x : Found) (r : List Char) : Fault := { cause := .invalidType x expected, rest := r }
  let literal (w : List Char) (x : Found) (t : List Char) : Fault := match word w t with
    | .error e => e
    | .ok r => found x r
  match s with
  | [] => { cause := .endOfValue, rest := [] }
  | c :: t =>
    if c = 'n' then literal ['u', 'l', 'l'] .null t
    else if c = 't' then literal ['r', 'u', 'e'] (.boolean true) t
    else if c = 'f' then literal ['a', 'l', 's', 'e'] (.boolean false) t
    else if c = '"' then match stringFrom [] t with
      | .error e => e
      | .ok (x, r) => found (.string x) r
    else if c = '[' then found .sequence s
    else if c = '\x7b' then found .map s
    else if c = '-' ∨ c.isDigit then match number s with
      | .error e => e
      | .ok (x, r) => found x.found r
    else { cause := .expectedValue, rest := s, ahead := 1 }

def opening (c : Char) (s : List Char) : Option (List Char) := match skipBlanks s with
  | d :: t => if d = c then some t else none
  | [] => none

theorem length_opening_lt {c : Char} {s t : List Char} (h : opening c s = some t) :
    t.length < s.length := by
  have hb := length_skipBlanks_le s
  unfold opening at h
  split at h
  · rename_i hs
    rw [hs] at hb
    split at h
    · cases h
      exact hb
    · cases h
  · cases h

def stringRun (s : List Char) : Except Fault (String × List Char) := match opening '"' s with
  | some t => stringFrom [] t
  | none => .error (mismatch "a string" (skipBlanks s))

def string : Reader String where
  run := stringRun
  length_lt {s a r} h := by
    unfold stringRun at h
    split at h
    · rename_i ho
      exact Nat.lt_trans (length_stringFrom_lt h) (length_opening_lt ho)
    · cases h

def optionalStringRun (s : List Char) : Except Fault (Option String × List Char) :=
  match opening 'n' s with
  | some t => (word ['u', 'l', 'l'] t).map (none, ·)
  | none => (stringRun s).map fun (x, r) => (some x, r)

def optionalString : Reader (Option String) where
  run := optionalStringRun
  length_lt {s a r} h := by
    unfold optionalStringRun at h
    split at h
    · rename_i ho
      obtain ⟨t, ht, hp⟩ := map_eq_ok h
      cases hp
      exact Nat.lt_of_le_of_lt (length_word_le ht) (length_opening_lt ho)
    · obtain ⟨p, hp, he⟩ := map_eq_ok h
      cases he
      exact string.length_lt hp

def int32? (i : Int) : Option Int32 :=
  if Int32.minValue.toInt ≤ i ∧ i ≤ Int32.maxValue.toInt then some (Int32.ofInt i) else none

def int32Run (s : List Char) : Except Fault (Int32 × List Char) :=
  let s := skipBlanks s
  if s.head?.any fun c => c = '-' || c.isDigit then match number s with
    | .error e => .error e
    | .ok (.float x, r) => .error { cause := .invalidType (.float x.toBits) "i32", rest := r }
    | .ok (.integer i, r) => match int32? i with
      | some n => .ok (n, r)
      | none => .error { cause := .invalidInteger i "i32", rest := r }
  else .error (mismatch "i32" s)

def int32 : Reader Int32 where
  run := int32Run
  length_lt {s a r} h := by
    have hb := length_skipBlanks_le s
    simp only [int32Run] at h
    split at h
    · split at h
      · cases h
      · cases h
      · rename_i hn
        split at h
        · cases h
          exact Nat.lt_of_lt_of_le (length_number_lt hn) hb
        · cases h
    · cases h

inductive Slot
  | close (rest : List Char)
  | element (rest : List Char)

def nextElement (first : Bool) (s : List Char) : Except Fault Slot := match skipBlanks s with
  | [] => .error { cause := .endOfArray, rest := [] }
  | c :: t =>
    if c = ']' then .ok (.close t)
    else if first then .ok (.element (c :: t))
    else if c = ',' then match skipBlanks t with
      | [] => .error { cause := .endOfValue, rest := [] }
      | d :: u =>
        if d = ']' then .error { cause := .trailingComma, rest := d :: u, ahead := 1 }
        else .ok (.element (d :: u))
    else .error { cause := .expectedArrayCommaOrEnd, rest := c :: t, ahead := 1 }

theorem length_nextElement {first : Bool} {s : List Char} {x : Slot}
    (h : nextElement first s = .ok x) : match x with
      | .close r => r.length < s.length
      | .element r => r.length ≤ s.length := by
  have hb := length_skipBlanks_le s
  unfold nextElement at h
  split at h
  · cases h
  · rename_i c t hs
    have ht := length_skipBlanks_le t
    rw [hs] at hb
    simp only [List.length_cons] at hb
    split at h
    · cases h
      exact hb
    · split at h
      · cases h
        exact hb
      · split at h
        · split at h
          · cases h
          · rename_i hu
            rw [hu] at ht
            split at h
            · cases h
            · cases h
              simp only
              omega
        · cases h

variable {α : Type}

def elements (item : Reader α) (first : Bool) (s : List Char) : Except Fault (List α × List Char) :=
  match h : nextElement first s with
  | .error e => .error e
  | .ok (.close r) => .ok ([], r)
  | .ok (.element t) => match ht : item.run t with
    | .error e => .error e
    | .ok (a, r) =>
      have := Nat.lt_of_lt_of_le (item.length_lt ht) (length_nextElement h)
      match elements item false r with
      | .error e => .error e
      | .ok (as, u) => .ok (a :: as, u)
termination_by s.length

theorem length_elements_lt {item : Reader α} {first : Bool} {s r : List Char} {as : List α}
    (h : elements item first s = .ok (as, r)) : r.length < s.length := by
  fun_induction elements item first s generalizing as with
  | case1 | case3 | case4 => cases h
  | case2 _ _ _ hx => cases h; exact length_nextElement hx
  | case5 _ _ _ _ _ _ _ hlt _ _ hu ih => cases h; exact Nat.lt_trans (ih hu) hlt

def listRun (item : Reader α) (s : List Char) : Except Fault (List α × List Char) :=
  match opening '[' s with
  | some t => elements item true t
  | none => .error (mismatch "a sequence" (skipBlanks s))

def list (item : Reader α) : Reader (List α) where
  run := listRun item
  length_lt {s a r} h := by
    unfold listRun at h
    split at h
    · rename_i ho
      exact Nat.lt_trans (length_elements_lt h) (length_opening_lt ho)
    · cases h

def memberKey (s : List Char) : Except Fault (Option String × List Char) := match s with
  | c :: t =>
    if c = '"' then (stringFrom [] t).map fun (k, r) => (some k, r)
    else .error { cause := .keyNotString, rest := s, ahead := 1 }
  | [] => .error { cause := .endOfValue, rest := [] }

def nextKey (first : Bool) (s : List Char) : Except Fault (Option String × List Char) :=
  match skipBlanks s with
  | [] => .error { cause := .endOfObject, rest := [] }
  | c :: t =>
    if c = '\x7d' then .ok (none, t)
    else if first then memberKey (c :: t)
    else if c = ',' then match skipBlanks t with
      | d :: u =>
        if d = '\x7d' then .error { cause := .trailingComma, rest := d :: u, ahead := 1 }
        else memberKey (d :: u)
      | [] => memberKey []
    else .error { cause := .expectedObjectCommaOrEnd, rest := c :: t, ahead := 1 }

theorem length_memberKey_lt {s r : List Char} {k : Option String} (h : memberKey s = .ok (k, r)) :
    r.length < s.length := by
  unfold memberKey at h
  split at h
  · split at h
    · obtain ⟨p, hp, he⟩ := map_eq_ok h
      cases he
      exact Nat.lt_succ_of_lt (length_stringFrom_lt hp)
    · cases h
  · cases h

theorem length_nextKey_lt {first : Bool} {s r : List Char} {k : Option String}
    (h : nextKey first s = .ok (k, r)) : r.length < s.length := by
  have hb := length_skipBlanks_le s
  unfold nextKey at h
  split at h
  · cases h
  · rename_i c t hs
    have ht := length_skipBlanks_le t
    rw [hs] at hb
    simp only [List.length_cons] at hb
    split at h
    · cases h
      exact hb
    · split at h
      · have := length_memberKey_lt h
        simp only [List.length_cons] at this
        omega
      · split at h
        · split at h
          · rename_i hu
            rw [hu] at ht
            split at h
            · cases h
            · have := length_memberKey_lt h
              omega
          · cases h
        · cases h

def colon (s : List Char) : Except Fault (List Char) := match skipBlanks s with
  | [] => .error { cause := .endOfObject, rest := [] }
  | c :: t =>
    if c = ':' then .ok t else .error { cause := .expectedColon, rest := c :: t, ahead := 1 }

theorem length_colon_lt {s r : List Char} (h : colon s = .ok r) : r.length < s.length := by
  have hb := length_skipBlanks_le s
  unfold colon at h
  split at h
  · cases h
  · rename_i hs
    rw [hs] at hb
    split at h
    · cases h
      exact hb
    · cases h

def memberValue (item : Reader α) (s : List Char) : Except Fault (α × List Char) :=
  match colon s with
  | .error e => .error e
  | .ok t => item.run t

theorem length_memberValue_lt {item : Reader α} {s r : List Char} {a : α}
    (h : memberValue item s = .ok (a, r)) : r.length < s.length := by
  unfold memberValue at h
  split at h
  · cases h
  · rename_i hc
    exact Nat.lt_trans (item.length_lt h) (length_colon_lt hc)

def entries (item : Reader α) (first : Bool) (m : SortedMap α) (s : List Char) :
    Except Fault (SortedMap α × List Char) :=
  match h : nextKey first s with
  | .error e => .error e
  | .ok (none, r) => .ok (m, r)
  | .ok (some key, t) => match ht : memberValue item t with
    | .error e => .error e
    | .ok (a, r) =>
      have := Nat.lt_trans (length_memberValue_lt ht) (length_nextKey_lt h)
      entries item false (m.insert key a) r
termination_by s.length

theorem length_entries_lt {item : Reader α} {first : Bool} {m m' : SortedMap α} {s r : List Char}
    (h : entries item first m s = .ok (m', r)) : r.length < s.length := by
  fun_induction entries item first m s with
  | case1 | case3 => cases h
  | case2 _ _ _ _ hk => cases h; exact length_nextKey_lt hk
  | case4 _ _ _ _ _ _ _ _ _ hlt ih => exact Nat.lt_trans (ih h) hlt

def mapRun (item : Reader α) (s : List Char) : Except Fault (SortedMap α × List Char) :=
  match opening '\x7b' s with
  | some t => entries item true ∅ t
  | none => .error (mismatch "a map" (skipBlanks s))

def map (item : Reader α) : Reader (SortedMap α) where
  run := mapRun item
  length_lt {s a r} h := by
    unfold mapRun at h
    split at h
    · rename_i ho
      exact Nat.lt_trans (length_entries_lt h) (length_opening_lt ho)
    · cases h

end Portrait.Json
