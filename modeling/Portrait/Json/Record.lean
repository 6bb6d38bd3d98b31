import Portrait.Json.Reader

/-! Records are read from an object, with its known keys in any order and other keys passed over, or
from an array of the fields in their order.  A field that is left out keeps its default. -/

namespace Portrait.Json

structure Field (α : Type) where
  key : String
  required : Bool := false
  /-- Reads a value and answers how the record takes it. -/
  value : Reader (α → α)

def Field.of {α β : Type} (key : String) (reader : Reader β) (set : β → α → α)
    (required : Bool := false) : Field α := { key, required, value := reader.map set }

structure Schema (α : Type) where
  name : String
  fields : List (Field α)
  blank : α

namespace Schema

variable {α : Type}

def expected (sc : Schema α) : String := "struct " ++ sc.name

def expectedElements (sc : Schema α) : String :=
  sc.expected ++ " with " ++ toString sc.fields.length ++
    if sc.fields.length = 1 then " element" else " elements"

def field? (sc : Schema α) (key : String) : Option (Field α) := sc.fields.find? (·.key = key)

def missing? (sc : Schema α) (seen : List String) : Option String :=
  (sc.fields.find? fun f => f.required && !seen.contains f.key).map (·.key)

/-- What is left behind a key that is refused: blanks and the end of the object are passed over. -/
def afterKey (s : List Char) : List Char := match skipBlanks s with
  | c :: t => if c = '\x7d' then t else c :: t
  | [] => []

def member (sc : Schema α) (seen : List String) (key : String) (s : List Char) :
    Except Fault ((List String × (α → α)) × List Char) := match sc.field? key with
  | some f =>
    if seen.contains key then .error { cause := .duplicateField key, rest := afterKey s }
    else (memberValue f.value s).map fun (set, r) => ((key :: seen, set), r)
  | none => match colon s with
    | .error e => .error e
    | .ok t => (skipValue t).map fun r => ((seen, id), r)

theorem length_member_lt {sc : Schema α} {seen : List String} {key : String} {s r : List Char}
    {x : List String × (α → α)} (h : sc.member seen key s = .ok (x, r)) : r.length < s.length := by
  unfold member at h
  split at h
  · split at h
    · cases h
    · obtain ⟨p, hp, he⟩ := map_eq_ok h
      cases he
      exact length_memberValue_lt hp
  · split at h
    · cases h
    · rename_i hc
      obtain ⟨p, hp, he⟩ := map_eq_ok h
      cases he
      exact Nat.lt_trans (length_skipWithin_lt hp) (length_colon_lt hc)

def members (sc : Schema α) (first : Bool) (seen : List String) (a : α) (s : List Char) :
    Except Fault (α × List Char) := match h : nextKey first s with
  | .error e => .error e
  | .ok (none, r) => match sc.missing? seen with
    | none => .ok (a, r)
    | some key => .error { cause := .missingField key, rest := r }
  | .ok (some key, t) => match ht : sc.member seen key t with
    | .error e => .error e
    | .ok ((seen, set), r) =>
      have := Nat.lt_trans (length_member_lt ht) (length_nextKey_lt h)
      sc.members false seen (set a) r
termination_by s.length

theorem length_members_lt {sc : Schema α} {first : Bool} {seen : List String} {a b : α}
    {s r : List Char} (h : sc.members first seen a s = .ok (b, r)) : r.length < s.length := by
  fun_induction members sc first seen a s with
  | case1 | case3 | case4 => cases h
  | case2 _ _ _ _ _ hk => cases h; exact length_nextKey_lt hk
  | case5 _ _ _ _ _ _ _ _ _ _ _ hlt ih => exact Nat.lt_trans (ih h) hlt

def closeArray (s : List Char) : Except Fault (List Char) := match skipBlanks s with
  | [] => .error { cause := .endOfArray, rest := [] }
  | c :: t =>
    if c = ']' then .ok t
    else if c = ',' then
      let u := skipBlanks t
      .error { cause := if u.head? = some ']' then .trailingComma else .trailingCharacters
               rest := u, ahead := 1 }
    else .error { cause := .trailingCharacters, rest := c :: t, ahead := 1 }

def positional (sc : Schema α) (count : Nat) (a : α) :
    List (Field α) → List Char → Except Fault (α × List Char)
  | [], s => (closeArray s).map (a, ·)
  | f :: fs, s => match nextElement (count = 0) s with
    | .error e => .error e
    | .ok (.close r) => match (f :: fs).findIdx? (·.required) with
      | none => .ok (a, r)
      | some i => .error { cause := .invalidLength (count + i) sc.expectedElements, rest := r }
    | .ok (.element t) => match f.value.run t with
      | .error e => .error e
      | .ok (set, r) => positional sc (count + 1) (set a) fs r

theorem length_closeArray_lt {s r : List Char} (h : closeArray s = .ok r) : r.length < s.length := by
  have hb := length_skipBlanks_le s
  unfold closeArray at h
  split at h
  · cases h
  · rename_i hs
    rw [hs] at hb
    split at h
    · cases h
      exact hb
    · split at h <;> cases h

theorem length_positional_lt {sc : Schema α} {count : Nat} {a b : α} {fs : List (Field α)}
    {s r : List Char} (h : sc.positional count a fs s = .ok (b, r)) : r.length < s.length := by
  induction fs generalizing count a s with
  | nil =>
    obtain ⟨p, hp, he⟩ := map_eq_ok h
    cases he
    exact length_closeArray_lt hp
  | cons f fs ih =>
    unfold positional at h
    split at h
    · cases h
    · rename_i hc
      split at h
      · cases h
        exact length_nextElement hc
      · cases h
    · rename_i hc
      split at h
      · cases h
      · rename_i hr
        have := length_nextElement hc
        have := f.value.length_lt hr
        have := ih h
        simp only at *
        omega

def run (sc : Schema α) (s : List Char) : Except Fault (α × List Char) := match opening '\x7b' s with
  | some t => sc.members true [] sc.blank t
  | none => match opening '[' s with
    | some t => sc.positional 0 sc.blank sc.fields t
    | none => .error (mismatch sc.expected (skipBlanks s))

def reader (sc : Schema α) : Reader α where
  run := sc.run
  length_lt {s a r} h := by
    unfold run at h
    split at h
    · rename_i ho
      exact Nat.lt_trans (length_members_lt h) (length_opening_lt ho)
    · split at h
      · rename_i ho
        exact Nat.lt_trans (length_positional_lt h) (length_opening_lt ho)
      · cases h

end Schema

end Portrait.Json
