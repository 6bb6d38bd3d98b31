import Portrait.Json.Fault

/-! Numbers: how they are written, and the integer or binary floating-point number that is meant. -/

namespace Portrait.Json

structure Exponent where
  negative : Bool
  digits : List Char
  deriving DecidableEq

structure Numeral where
  negative : Bool
  whole : List Char
  fraction : Option (List Char) := none
  exponent : Option Exponent := none
  deriving DecidableEq

inductive Number
  | integer (i : Int)
  | float (x : Float)

namespace Numeral

def digits (s : List Char) : List Char × List Char :=
  (s.takeWhile Char.isDigit, s.dropWhile Char.isDigit)

theorem length_digits_le (s : List Char) : (digits s).2.length ≤ s.length :=
  (List.dropWhile_sublist _).length_le

def wholePart (ending : Cause) (s : List Char) : Except Fault (List Char × List Char) := match s with
  | [] => .error { cause := ending, rest := [] }
  | '0' :: t =>
    if (t.head?.any Char.isDigit) then .error { cause := .invalidNumber, rest := t, ahead := 1 }
    else .ok (['0'], t)
  | c :: _ =>
    if c.isDigit then .ok (digits s) else .error { cause := .invalidNumber, rest := s, ahead := 1 }

def fractionPart (ending : Cause) (s : List Char) : Except Fault (Option (List Char) × List Char) :=
  match s with
  | '.' :: t =>
    let (ds, u) := digits t
    if ds.isEmpty then
      .error { cause := if u.isEmpty then ending else .invalidNumber, rest := u, ahead := 1 }
    else .ok (some ds, u)
  | _ => .ok (none, s)

def signPart : List Char → Bool × List Char
  | '+' :: t => (false, t)
  | '-' :: t => (true, t)
  | s => (false, s)

def exponentPart (ending : Cause) (s : List Char) : Except Fault (Option Exponent × List Char) :=
  match s with
  | c :: t =>
    if c = 'e' ∨ c = 'E' then
      let (negative, u) := signPart t
      let (ds, v) := digits u
      if ds.isEmpty then
        .error { cause := if v.isEmpty then ending else .invalidNumber, rest := v, ahead := 1 }
      else .ok (some { negative, digits := ds }, v)
    else .ok (none, s)
  | [] => .ok (none, s)

def scan (ending : Cause) (s : List Char) : Except Fault (Numeral × List Char) := do
  let negative := s.head? = some '-'
  let (whole, t) ← wholePart ending (if negative then s.tail else s)
  let (fraction, u) ← fractionPart ending t
  let (exponent, v) ← exponentPart ending u
  return ({ negative, whole, fraction, exponent }, v)

def digitValue (c : Char) : Nat := c.toNat - '0'.toNat

/-- The number `significand * 10 ^ exponent`, the significand kept below `2 ^ 64`.  Once a digit does
not fit, it is full. -/
structure Scaled where
  significand : Nat := 0
  exponent : Int := 0
  full : Bool := false

def Scaled.wholeDigit (x : Scaled) (c : Char) : Scaled :=
  let next := x.significand * 10 + digitValue c
  if x.full ∨ UInt64.size ≤ next then { x with exponent := x.exponent + 1, full := true }
  else { x with significand := next }

def Scaled.fractionDigit (x : Scaled) (c : Char) : Scaled :=
  let next := x.significand * 10 + digitValue c
  if x.full ∨ UInt64.size ≤ next then { x with full := true }
  else { x with significand := next, exponent := x.exponent - 1 }

def scaled (n : Numeral) : Scaled :=
  let whole := n.whole.foldl Scaled.wholeDigit {}
  match n.fraction with
  | some ds => ds.foldl Scaled.fractionDigit { whole with full := false }
  | none => whole

def exponentValue (acc : Nat) : List Char → Except (List Char) Nat
  | [] => .ok acc
  | c :: cs =>
    let next := acc * 10 + digitValue c
    if Int32.maxValue.toInt < next then .error cs else exponentValue next cs

def powerOfTen (n : Nat) : Float := Float.ofScientific 1 false n

/-- Divides by `10 ^ n`, at most `10 ^ 308` at a time. -/
def divide (x : Float) (n : Nat) : Float :=
  if _h : n ≤ 308 then x / powerOfTen n
  else if x == 0 then x
  else divide (x / powerOfTen 308) (n - 308)
termination_by n
decreasing_by omega

def Scaled.toFloat? (x : Scaled) : Option Float :=
  let f := x.significand.toUInt64.toFloat
  if x.exponent < 0 then some (divide f x.exponent.natAbs)
  else if 308 < x.exponent then if f == 0 then some f else none
  else
    let g := f * powerOfTen x.exponent.toNat
    if g.isInf then none else some g

def withSign (n : Numeral) (x : Float) : Number := .float (if n.negative then -x else x)

def integer? (n : Numeral) : Option Int :=
  let x := n.scaled
  if n.fraction.isSome ∨ n.exponent.isSome ∨ x.full then none
  else if !n.negative then some x.significand
  else if 0 < x.significand ∧ Int64.minValue.toInt ≤ -x.significand then some (-x.significand)
  else none

def value (n : Numeral) : Except (List Char) Number := match n.integer? with
  | some i => .ok (.integer i)
  | none =>
    let x := n.scaled
    let finish (x : Scaled) : Except (List Char) Number := match x.toFloat? with
      | some f => .ok (n.withSign f)
      | none => .error []
    match n.exponent with
    | none => finish x
    | some e => match exponentValue 0 e.digits with
      | .ok k => finish { x with exponent := if e.negative then x.exponent - k else x.exponent + k }
      | .error unread =>
        if x.significand ≠ 0 ∧ !e.negative then .error unread else .ok (n.withSign 0)

theorem length_wholePart_lt {ending : Cause} {s ds r : List Char}
    (h : wholePart ending s = .ok (ds, r)) : r.length < s.length := by
  unfold wholePart at h
  split at h
  · cases h
  · split at h
    · cases h
    · cases h; exact Nat.lt_succ_self _
  · rename_i c t _
    split at h
    · rename_i hc
      cases h
      rw [List.dropWhile_cons_of_pos hc]
      exact Nat.lt_succ_of_le (length_digits_le t)
    · cases h

theorem length_fractionPart_le {ending : Cause} {s r : List Char} {ds : Option (List Char)}
    (h : fractionPart ending s = .ok (ds, r)) : r.length ≤ s.length := by
  unfold fractionPart at h
  split at h
  · rename_i t
    dsimp only at h
    split at h
    · cases h
    · cases h; exact Nat.le_succ_of_le (length_digits_le t)
  · cases h; exact Nat.le_refl _

theorem length_signPart_le (s : List Char) : (signPart s).2.length ≤ s.length := by
  unfold signPart
  split <;> simp

theorem length_exponentPart_le {ending : Cause} {s r : List Char} {e : Option Exponent}
    (h : exponentPart ending s = .ok (e, r)) : r.length ≤ s.length := by
  unfold exponentPart at h
  split at h
  · rename_i c t
    split at h
    · dsimp only at h
      split at h
      · cases h
      · cases h
        exact Nat.le_succ_of_le (Nat.le_trans (length_digits_le _) (length_signPart_le t))
    · cases h; exact Nat.le_refl _
  · cases h; exact Nat.le_refl _

theorem length_scan_lt {ending : Cause} {s r : List Char} {n : Numeral}
    (h : scan ending s = .ok (n, r)) : r.length < s.length := by
  simp only [scan, bind, Except.bind, pure, Except.pure] at h
  split at h
  · cases h
  · rename_i hw
    split at h
    · cases h
    · rename_i hf
      split at h
      · cases h
      · rename_i he
        cases h
        have hs : (if s.head? = some '-' then s.tail else s).length ≤ s.length := by
          split <;> simp
        have := length_wholePart_lt hw
        have := length_fractionPart_le hf
        have := length_exponentPart_le he
        omega

end Numeral

def number (s : List Char) : Except Fault (Number × List Char) := do
  let (n, r) ← Numeral.scan .endOfValue s
  match n.value with
  | .ok x => return (x, r)
  | .error unread => .error { cause := .numberOutOfRange, rest := unread ++ r }

theorem length_number_lt {s r : List Char} {x : Number} (h : number s = .ok (x, r)) :
    r.length < s.length := by
  simp only [number, bind, Except.bind] at h
  split at h
  · cases h
  · rename_i hs
    split at h
    · cases h; exact Numeral.length_scan_lt hs
    · cases h

def Number.found : Number → Found
  | .integer i => .integer i
  | .float x => .float x.toBits

end Portrait.Json
