import Portrait.Json.Fault

/-! Blanks, words and strings.  Each scanner answers what it read and the text that is left. -/

namespace Portrait.Json

def isBlank (c : Char) : Bool := c = ' ' || c = '\n' || c = '\t' || c = '\r'

def skipBlanks (s : List Char) : List Char := s.dropWhile isBlank

theorem length_skipBlanks_le (s : List Char) : (skipBlanks s).length ≤ s.length :=
  (List.dropWhile_sublist _).length_le

def word : List Char → List Char → Except Fault (List Char)
  | [], s => .ok s
  | _ :: _, [] => .error { cause := .endOfValue, rest := [] }
  | w :: ws, c :: s =>
    if c = w then word ws s else .error { cause := .expectedWord, rest := c :: s, ahead := 1 }

theorem length_word_le {w s r : List Char} (h : word w s = .ok r) : r.length ≤ s.length := by
  fun_induction word w s with
  | case1 s => cases h; exact Nat.le_refl _
  | case2 => cases h
  | case3 w ws s ih => exact Nat.le_succ_of_le (ih h)
  | case4 => cases h

def hexValue? (c : Char) : Option Nat :=
  if '0' ≤ c ∧ c ≤ '9' then some (c.toNat - '0'.toNat)
  else if 'a' ≤ c ∧ c ≤ 'f' then some (c.toNat - 'a'.toNat + 10)
  else if 'A' ≤ c ∧ c ≤ 'F' then some (c.toNat - 'A'.toNat + 10)
  else none

def hexNumber? (cs : List Char) : Option Nat :=
  cs.foldl (fun n? c => do return 16 * (← n?) + (← hexValue? c)) (some 0)

def fourHex (s : List Char) : Except Fault (Nat × List Char) := match s with
  | a :: b :: c :: d :: t => match hexNumber? [a, b, c, d] with
    | some n => .ok (n, t)
    | none => .error { cause := .invalidEscape, rest := s, ahead := 4 }
  | _ =>
    if (String.ofList s).utf8ByteSize < 4 then .error { cause := .endOfString, rest := [] }
    else .error { cause := .invalidEscape, rest := s, ahead := 4 }

theorem length_fourHex_lt {s t : List Char} {n : Nat} (h : fourHex s = .ok (n, t)) :
    t.length < s.length := by
  unfold fourHex at h
  split at h
  · split at h
    · cases h; simp only [List.length_cons]; omega
    · cases h
  · split at h <;> cases h

def shortEscape? : Char → Option Char
  | '"' => some '"'
  | '\\' => some '\\'
  | '/' => some '/'
  | 'b' => some '\x08'
  | 'f' => some '\x0c'
  | 'n' => some '\n'
  | 'r' => some '\r'
  | 't' => some '\t'
  | _ => none

def isLeading (n : Nat) : Bool := 0xD800 ≤ n && n ≤ 0xDBFF

def isTrailing (n : Nat) : Bool := 0xDC00 ≤ n && n ≤ 0xDFFF

def surrogatePair (leading trailing : Nat) : Char :=
  Char.ofNat (0x10000 + (leading - 0xD800) * 0x400 + (trailing - 0xDC00))

def trailingHalf (leading : Nat) : List Char → Except Fault (Char × List Char)
  | '\\' :: 'u' :: t => match fourHex t with
    | .error f => .error f
    | .ok (n, r) =>
      if isTrailing n then .ok (surrogatePair leading n, r)
      else .error { cause := .loneSurrogate, rest := r }
  | [] | ['\\'] => .error { cause := .endOfString, rest := [] }
  | '\\' :: t => .error { cause := .surrogateNotFollowed, rest := t, ahead := 1 }
  | s => .error { cause := .surrogateNotFollowed, rest := s, ahead := 1 }

def numberedEscape (s : List Char) : Except Fault (Char × List Char) := match fourHex s with
  | .error f => .error f
  | .ok (n, r) =>
    if isTrailing n then .error { cause := .loneSurrogate, rest := r }
    else if isLeading n then trailingHalf n r
    else .ok (Char.ofNat n, r)

def escape : List Char → Except Fault (Char × List Char)
  | [] => .error { cause := .endOfString, rest := [] }
  | c :: s => match shortEscape? c with
    | some e => .ok (e, s)
    | none =>
      if c = 'u' then numberedEscape s
      else .error { cause := .invalidEscape, rest := c :: s, ahead := 1 }

theorem length_trailingHalf_lt {n : Nat} {c : Char} {s r : List Char}
    (h : trailingHalf n s = .ok (c, r)) : r.length < s.length := by
  unfold trailingHalf at h
  split at h
  · split at h
    · cases h
    · rename_i hx
      split at h
      · obtain ⟨-, rfl⟩ := Prod.mk.inj (Except.ok.inj h)
        exact Nat.lt_trans (length_fourHex_lt hx) (by simp only [List.length_cons]; omega)
      · cases h
  all_goals cases h

theorem length_escape_lt {s r : List Char} {c : Char} (h : escape s = .ok (c, r)) :
    r.length < s.length := by
  unfold escape at h
  split at h
  · cases h
  · split at h
    · cases h; exact Nat.lt_succ_self _
    · split at h
      · unfold numberedEscape at h
        split at h
        · cases h
        · rename_i hx
          have := length_fourHex_lt hx
          split at h
          · cases h
          · split at h
            · exact Nat.lt_succ_of_lt (Nat.lt_trans (length_trailingHalf_lt h) this)
            · cases h; exact Nat.lt_succ_of_lt this
      · cases h

/-- Reads a string after its opening quote; `acc` holds what was read, last character first. -/
def stringFrom (acc : List Char) (s : List Char) : Except Fault (String × List Char) := match s with
  | [] => .error { cause := .endOfString, rest := [] }
  | c :: t =>
    if c = '"' then .ok (String.ofList acc.reverse, t)
    else if c = '\\' then match h : escape t with
      | .error f => .error f
      | .ok (e, r) =>
        have := length_escape_lt h
        stringFrom (e :: acc) r
    else if c.toNat < 0x20 then .error { cause := .controlCharacter, rest := s, ahead := 1 }
    else stringFrom (c :: acc) t
termination_by s.length

theorem length_stringFrom_lt {acc s r : List Char} {x : String}
    (h : stringFrom acc s = .ok (x, r)) : r.length < s.length := by
  fun_induction stringFrom acc s with
  | case1 => cases h
  | case2 => cases h; exact Nat.lt_succ_self _
  | case3 => cases h
  | case4 _ _ _ _ _ hlt _ ih => exact Nat.lt_succ_of_lt (Nat.lt_trans (ih h) hlt)
  | case5 => cases h
  | case6 _ _ _ _ _ _ ih => exact Nat.lt_succ_of_lt (ih h)

end Portrait.Json
