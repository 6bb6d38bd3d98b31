import Portrait.Json.Lexeme
import Portrait.Json.Numeral

/-! Values that nobody asks for are passed over.  They obey the grammar, with any nesting; their
numbers may be of any size, and their escapes may name lone surrogates. -/

namespace Portrait.Json

def skipString (s : List Char) : Except Fault (List Char) := match s with
  | [] => .error { cause := .endOfString, rest := [] }
  | c :: t =>
    if c = '"' then .ok t
    else if c = '\\' then match t with
      | [] => .error { cause := .endOfString, rest := [] }
      | e :: u =>
        if (shortEscape? e).isSome then skipString u
        else if e = 'u' then match h : fourHex u with
          | .error f => .error f
          | .ok (_, r) =>
            have := length_fourHex_lt h
            skipString r
        else .error { cause := .invalidEscape, rest := t, ahead := 1 }
    else if c.toNat < 0x20 then .error { cause := .controlCharacter, rest := s }
    else skipString t
termination_by s.length

def skipScalar (s : List Char) : Except Fault (List Char) := match s with
  | [] => .error { cause := .endOfValue, rest := [] }
  | c :: t =>
    if c = 'n' then word ['u', 'l', 'l'] t
    else if c = 't' then word ['r', 'u', 'e'] t
    else if c = 'f' then word ['a', 'l', 's', 'e'] t
    else if c = '"' then skipString t
    else if c = '-' ∨ c.isDigit then (Numeral.scan .invalidNumber s).map (·.2)
    else .error { cause := .expectedValue, rest := s, ahead := 1 }

def skipKey (s : List Char) : Except Fault (List Char) := match skipBlanks s with
  | [] => .error { cause := .endOfObject, rest := [] }
  | c :: t =>
    if c = '"' then match skipString t with
      | .error f => .error f
      | .ok r => match skipBlanks r with
        | [] => .error { cause := .endOfObject, rest := [] }
        | d :: u =>
          if d = ':' then .ok u
          else .error { cause := .expectedColon, rest := d :: u, ahead := 1 }
    else .error { cause := .keyNotString, rest := c :: t, ahead := 1 }

inductive Frame
  | array
  | object
  deriving DecidableEq

def Frame.closer : Frame → Char
  | .array => ']'
  | .object => '\x7d'

def Frame.atEnd : Frame → Cause
  | .array => .endOfArray
  | .object => .endOfObject

def Frame.commaOrEnd : Frame → Cause
  | .array => .expectedArrayCommaOrEnd
  | .object => .expectedObjectCommaOrEnd

def Frame.enter : Frame → List Char → Except Fault (List Char)
  | .array, s => .ok s
  | .object, s => skipKey s

/-- After a value inside the frames, innermost first: closes all that end here.  Answers the frames
that are still open before the next value, if any. -/
def closeFrames : List Frame → List Char → Except Fault (Option (List Frame) × List Char)
  | [], s => .ok (none, s)
  | f :: up, s => match skipBlanks s with
    | [] => .error { cause := f.atEnd, rest := [] }
    | c :: t =>
      if c = f.closer then closeFrames up t
      else if c = ',' then (f.enter t).map (some (f :: up), ·)
      else .error { cause := f.commaOrEnd, rest := c :: t, ahead := 1 }

def openFrame (f : Frame) (s : List Char) : Except Fault (Bool × List Char) := match skipBlanks s with
  | [] => .error { cause := f.atEnd, rest := [] }
  | c :: t => if c = f.closer then .ok (false, t) else (f.enter (c :: t)).map (true, ·)

theorem length_skipString_lt {s r : List Char} (h : skipString s = .ok r) : r.length < s.length := by
  fun_induction skipString s with
  | case1 | case3 | case5 | case7 | case8 => cases h
  | case2 => cases h; exact Nat.lt_succ_self _
  | case4 _ _ _ _ ih => exact Nat.lt_succ_of_lt (Nat.lt_succ_of_lt (ih h))
  | case6 _ _ _ _ hlt _ _ ih => exact Nat.lt_succ_of_lt (Nat.lt_succ_of_lt (Nat.lt_trans (ih h) hlt))
  | case9 _ _ _ _ _ ih => exact Nat.lt_succ_of_lt (ih h)

theorem length_skipScalar_lt {s r : List Char} (h : skipScalar s = .ok r) :
    r.length < s.length := by
  unfold skipScalar at h
  split at h
  · cases h
  · split at h
    · exact Nat.lt_succ_of_le (length_word_le h)
    · split at h
      · exact Nat.lt_succ_of_le (length_word_le h)
      · split at h
        · exact Nat.lt_succ_of_le (length_word_le h)
        · split at h
          · exact Nat.lt_succ_of_lt (length_skipString_lt h)
          · split at h
            · cases hs : Numeral.scan .invalidNumber _ with
              | error => rw [hs] at h; cases h
              | ok p => rw [hs] at h; cases h; exact Numeral.length_scan_lt hs
            · cases h

theorem length_skipKey_lt {s r : List Char} (h : skipKey s = .ok r) : r.length < s.length := by
  have hb := length_skipBlanks_le s
  unfold skipKey at h
  split at h
  · cases h
  · rename_i hs
    rw [hs] at hb
    split at h
    · split at h
      · cases h
      · rename_i r' hr'
        have := length_skipString_lt hr'
        have hb' := length_skipBlanks_le r'
        split at h
        · cases h
        · rename_i hr''
          rw [hr''] at hb'
          split at h
          · cases h
            simp only [List.length_cons] at hb hb'
            omega
          · cases h
    · cases h

theorem Frame.length_enter_le {f : Frame} {s r : List Char} (h : f.enter s = .ok r) :
    r.length ≤ s.length := by
  cases f with
  | array => cases h; exact Nat.le_refl _
  | object => exact Nat.le_of_lt (length_skipKey_lt h)

theorem map_eq_ok {ε α β : Type} {f : α → β} {x : Except ε α} {b : β} (h : x.map f = .ok b) :
    ∃ a, x = .ok a ∧ f a = b := by
  cases x with
  | error => cases h
  | ok a => exact ⟨a, rfl, Except.ok.inj h⟩

theorem length_closeFrames_le {stack : List Frame} {s r : List Char} {o : Option (List Frame)}
    (h : closeFrames stack s = .ok (o, r)) : r.length ≤ s.length := by
  fun_induction closeFrames stack s with
  | case1 => cases h; exact Nat.le_refl _
  | case2 | case5 => cases h
  | case3 f up s t hs ih =>
    have hb := length_skipBlanks_le s
    rw [hs, List.length_cons] at hb
    have := ih h
    omega
  | case4 f up s t hs =>
    have hb := length_skipBlanks_le s
    rw [hs, List.length_cons] at hb
    obtain ⟨a, ha, hp⟩ := map_eq_ok h
    cases hp
    have := Frame.length_enter_le ha
    omega

theorem length_openFrame_le {f : Frame} {s r : List Char} {b : Bool}
    (h : openFrame f s = .ok (b, r)) : r.length ≤ s.length := by
  have hb := length_skipBlanks_le s
  unfold openFrame at h
  split at h
  · cases h
  · rename_i hs
    rw [hs] at hb
    split at h
    · cases h
      simp only [List.length_cons] at hb
      omega
    · obtain ⟨a, ha, hp⟩ := map_eq_ok h
      cases hp
      exact Nat.le_trans (Frame.length_enter_le ha) hb

def Frame.ofOpener? (c : Char) : Option Frame :=
  if c = '[' then some .array else if c = '\x7b' then some .object else none

def skipStep (stack : List Frame) (s : List Char) :
    Except Fault (Option (List Frame) × List Char) := match skipBlanks s with
  | [] => .error { cause := .endOfValue, rest := [] }
  | c :: t => match Frame.ofOpener? c with
    | some f => match openFrame f t with
      | .error e => .error e
      | .ok (true, r) => .ok (some (f :: stack), r)
      | .ok (false, r) => closeFrames stack r
    | none => match skipScalar (c :: t) with
      | .error e => .error e
      | .ok r => closeFrames stack r

theorem length_skipStep_lt {stack : List Frame} {s r : List Char} {o : Option (List Frame)}
    (h : skipStep stack s = .ok (o, r)) : r.length < s.length := by
  have hb := length_skipBlanks_le s
  unfold skipStep at h
  split at h
  · cases h
  · rename_i hs
    rw [hs] at hb
    simp only [List.length_cons] at hb
    split at h
    · split at h
      · cases h
      · rename_i ho
        cases h
        have := length_openFrame_le ho
        omega
      · rename_i ho
        have := length_openFrame_le ho
        have := length_closeFrames_le h
        omega
    · split at h
      · cases h
      · rename_i hr
        have := length_skipScalar_lt hr
        have := length_closeFrames_le h
        simp only [List.length_cons] at *
        omega

def skipWithin (stack : List Frame) (s : List Char) : Except Fault (List Char) :=
  match h : skipStep stack s with
  | .error e => .error e
  | .ok (none, r) => .ok r
  | .ok (some open', r) =>
    have := length_skipStep_lt h
    skipWithin open' r
termination_by s.length

def skipValue (s : List Char) : Except Fault (List Char) := skipWithin [] s

theorem length_skipWithin_lt {stack : List Frame} {s r : List Char}
    (h : skipWithin stack s = .ok r) : r.length < s.length := by
  fun_induction skipWithin stack s with
  | case1 => cases h
  | case2 _ _ _ hs => cases h; exact length_skipStep_lt hs
  | case3 _ _ _ _ _ hlt ih => exact Nat.lt_trans (ih h) hlt

end Portrait.Json
