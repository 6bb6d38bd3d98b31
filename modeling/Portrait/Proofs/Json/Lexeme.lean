import Mathlib.Data.List.TakeWhile
import Portrait.Proofs.Json.Syntax

/-! The scanners read what is written: each takes its token off the text, and nothing else. -/

namespace Portrait.Json

@[simp] theorem isBlank_token : isBlank '"' = false ∧ isBlank ',' = false ∧ isBlank ':' = false ∧
    isBlank ']' = false ∧ isBlank '\x7d' = false := by
  decide

@[simp] theorem skipBlanks_cons {c : Char} (hc : isBlank c = false) (s : List Char) :
    skipBlanks (c :: s) = c :: s := by
  simp [skipBlanks, hc]

@[simp] theorem skipBlanks_append (b : Blanks) (s : List Char) :
    skipBlanks (b.text ++ s) = skipBlanks s :=
  List.dropWhile_append_of_pos b.blank

@[simp] theorem skipBlanks_blanks (b : Blanks) : skipBlanks b.text = [] :=
  List.dropWhile_eq_nil_iff.mpr b.blank

@[simp] theorem word_append (w s : List Char) : word w (w ++ s) = .ok s := by
  induction w with
  | nil => rfl
  | cons c w ih => simp [word, ih]

/-! ### Strings -/

theorem fourHex_append (u : CodeUnit) (s : List Char) :
    fourHex (u.a :: u.b :: u.c :: u.d :: s) = .ok (u.value, s) := by
  simp [fourHex, u.number_eq]

theorem not_isTrailing_of_isLeading {n : Nat} (h : isLeading n = true) : isTrailing n = false := by
  simp only [isLeading, isTrailing, Bool.and_eq_true, decide_eq_true_eq, Bool.and_eq_false_iff,
    decide_eq_false_iff_not] at h ⊢
  omega

theorem numberedEscape_unit {u : CodeUnit} (h : ¬ (isLeading u.value || isTrailing u.value) = true)
    (s : List Char) :
    numberedEscape (u.a :: u.b :: u.c :: u.d :: s) = .ok (Char.ofNat u.value, s) := by
  rw [Bool.or_eq_true, not_or, Bool.not_eq_true, Bool.not_eq_true] at h
  simp only [numberedEscape, fourHex_append, h, Bool.false_eq_true, if_false]

theorem numberedEscape_pair {u v : CodeUnit} (hu : isLeading u.value = true)
    (hv : isTrailing v.value = true) (s : List Char) :
    numberedEscape (u.a :: u.b :: u.c :: u.d :: (v.text ++ s)) =
      .ok (surrogatePair u.value v.value, s) := by
  simp only [numberedEscape, fourHex_append, not_isTrailing_of_isLeading hu, hu, CodeUnit.text,
    List.cons_append, List.nil_append, trailingHalf, hv, Bool.false_eq_true, if_false, if_true]

theorem escape_glyph {g : Glyph} {c : Char} {t : List Char} (hc : g.char? = some c)
    (ht : g.text = '\\' :: t) (s : List Char) : escape (t ++ s) = .ok (c, s) := by
  cases g with
  | plain d h => exact absurd (List.cons.inj ht).1 h.2.1
  | short letter d h =>
    obtain rfl := (List.cons.inj ht).2
    obtain rfl := Option.some.inj hc
    simp [escape, h]
  | numbered u =>
    obtain rfl := (List.cons.inj ht).2
    rw [Glyph.char?] at hc
    split at hc
    · cases hc
    · rename_i hu
      rw [← Option.some.inj hc]
      exact numberedEscape_unit hu s
  | pair leading trailing h =>
    obtain rfl := (List.cons.inj ht).2
    rw [← Option.some.inj hc]
    exact numberedEscape_pair h.1 h.2 s

theorem stringFrom_glyph {g : Glyph} {c : Char} (hc : g.char? = some c) (acc s : List Char) :
    stringFrom acc (g.text ++ s) = stringFrom (c :: acc) s := by
  have escaped {t : List Char} (ht : g.text = '\\' :: t) :
      stringFrom acc (g.text ++ s) = stringFrom (c :: acc) s := by
    rw [ht, List.cons_append, stringFrom]
    have he := escape_glyph hc ht s
    simp only [Char.reduceEq, if_false, if_true]
    split
    · rename_i h
      rw [he] at h
      cases h
    · rename_i h
      rw [he] at h
      cases h
      rfl
  cases g with
  | plain d h =>
    obtain rfl := Option.some.inj hc
    rw [Glyph.text, List.singleton_append, stringFrom, if_neg h.1, if_neg h.2.1,
      if_neg (Nat.not_lt.mpr h.2.2)]
  | short letter d h => exact escaped rfl
  | numbered u => exact escaped rfl
  | pair leading trailing h => exact escaped rfl

theorem stringFrom_tail {w : Spelling} {cs : List Char} (h : w.map Glyph.char? = cs.map some)
    (acc rest : List Char) :
    stringFrom acc (w.tail ++ rest) = .ok (String.ofList (acc.reverse ++ cs), rest) := by
  induction w generalizing acc cs with
  | nil =>
    obtain rfl : cs = [] := by simpa using h
    simp [Spelling.tail, stringFrom]
  | cons g w ih =>
    cases cs with
    | nil => simp at h
    | cons c cs =>
      obtain ⟨hc, hw⟩ := List.cons.inj h
      have := ih hw (c :: acc)
      simp only [Spelling.tail, List.flatMap_cons, List.append_assoc] at this ⊢
      rw [stringFrom_glyph hc, this]
      simp

theorem stringFrom_spells {w : Spelling} {s : String} (h : w.Spells s) (rest : List Char) :
    stringFrom [] (w.tail ++ rest) = .ok (s, rest) := by
  rw [stringFrom_tail h]
  simp

theorem skipString_unit (u : CodeUnit) (s : List Char) :
    skipString (u.text ++ s) = skipString s := by
  rw [CodeUnit.text, List.cons_append, skipString.eq_def]
  have hx := fourHex_append u s
  have hu : shortEscape? 'u' = none := rfl
  simp only [List.cons_append, List.nil_append, Char.reduceEq, if_false, if_true, hu,
    Option.isSome_none, Bool.false_eq_true]
  split
  · rename_i h
    rw [hx] at h
    cases h
  · rename_i h
    rw [hx] at h
    cases h
    rfl

theorem skipString_glyph (g : Glyph) (s : List Char) : skipString (g.text ++ s) = skipString s := by
  cases g with
  | plain c h =>
    rw [Glyph.text, List.singleton_append, skipString.eq_def]
    simp [h, Nat.not_lt.mpr h.2.2]
  | short letter c h =>
    rw [Glyph.text, List.cons_append, skipString.eq_def]
    simp [h]
  | numbered u => exact skipString_unit u s
  | pair leading trailing h =>
    rw [Glyph.text, List.append_assoc, skipString_unit, skipString_unit]

theorem skipString_tail (w : Spelling) (rest : List Char) : skipString (w.tail ++ rest) = .ok rest := by
  induction w with
  | nil =>
    rw [skipString.eq_def]
    rfl
  | cons g w ih =>
    rw [Spelling.tail, List.append_assoc] at ih ⊢
    rw [List.flatMap_cons, List.append_assoc, skipString_glyph, ih]

/-! ### Numbers -/

theorem Delimited.ends_number {rest : List Char} (h : Delimited rest) :
    ∀ c ∈ rest.head?, c.isDigit = false ∧ c ≠ '.' ∧ c ≠ 'e' ∧ c ≠ 'E' := by
  intro c hc
  rcases h c hc with hb | rfl | rfl | rfl
  · simp only [isBlank, Bool.or_eq_true, decide_eq_true_eq] at hb
    rcases hb with ((rfl | rfl) | rfl) | rfl <;> decide
  all_goals decide

def Power.exponent (p : Power) : Exponent := { negative := p.negative, digits := p.digits.chars }

def NumberText.numeral (n : NumberText) : Numeral where
  negative := n.negative
  whole := n.whole.chars
  fraction := n.fraction.map (·.chars)
  exponent := n.power.map (·.exponent)

namespace Numeral

variable {rest : List Char}

theorem digits_append (ds : Digits) (h : ∀ c ∈ rest.head?, c.isDigit = false) :
    digits (ds.chars ++ rest) = (ds.chars, rest) := by
  have htake : rest.takeWhile Char.isDigit = [] := by cases rest <;> simp_all
  have hdrop : rest.dropWhile Char.isDigit = rest := by cases rest <;> simp_all
  rw [digits, List.takeWhile_append_of_pos ds.digit, List.dropWhile_append_of_pos ds.digit, htake,
    hdrop, List.append_nil]

theorem wholePart_append (ending : Cause) {ds : Digits}
    (hzero : ds.chars.head? = some '0' → ds.chars = ['0'])
    (h : ∀ c ∈ rest.head?, c.isDigit = false) :
    wholePart ending (ds.chars ++ rest) = .ok (ds.chars, rest) := by
  have hdigits := digits_append ds h
  cases hds : ds.chars with
  | nil => exact absurd hds ds.ne_nil
  | cons d cs =>
    rw [hds] at hdigits
    by_cases hd : d = '0'
    · subst hd
      have hone := hzero (by rw [hds]; rfl)
      rw [hds, List.cons.injEq] at hone
      have hany : rest.head?.any Char.isDigit = false := by cases rest <;> simp_all
      simp [wholePart, hone.2, hany]
    · have hdigit : d.isDigit = true := ds.digit d (by simp [hds])
      rw [List.cons_append, wholePart.eq_3 _ _ _ (by simpa using hd), if_pos hdigit, ← List.cons_append,
        hdigits]

theorem fractionPart_append (ending : Cause) (n : NumberText)
    (h : ∀ c ∈ rest.head?, c.isDigit = false ∧ c ≠ '.') :
    fractionPart ending (n.fractionText ++ rest) = .ok (n.fraction.map (·.chars), rest) := by
  cases hf : n.fraction with
  | none =>
    cases rest with
    | nil => simp [NumberText.fractionText, hf, fractionPart]
    | cons c t =>
      have hc := (h c rfl).2
      simp [NumberText.fractionText, hf, fractionPart, hc]
  | some ds =>
    have hdigits := digits_append ds fun c hc => (h c hc).1
    simp [NumberText.fractionText, hf, fractionPart, hdigits, ds.ne_nil]

theorem signPart_append (p : Power) (rest : List Char) :
    signPart (p.signText ++ (p.digits.chars ++ rest)) =
      (p.negative, p.digits.chars ++ rest) := by
  cases hs : p.negative? with
  | some b => cases b <;> simp [Power.signText, Power.negative, hs, signPart]
  | none =>
    cases hds : p.digits.chars with
    | nil => exact absurd hds p.digits.ne_nil
    | cons d ds =>
      have hd : d.isDigit = true := p.digits.digit d (by simp [hds])
      have hplus : d ≠ '+' := by rintro rfl; cases hd
      have hminus : d ≠ '-' := by rintro rfl; cases hd
      simp [Power.signText, Power.negative, hs, signPart, hplus, hminus]

theorem exponentPart_append (ending : Cause) (n : NumberText)
    (h : ∀ c ∈ rest.head?, c.isDigit = false ∧ c ≠ 'e' ∧ c ≠ 'E') :
    exponentPart ending (n.powerText ++ rest) = .ok (n.power.map Power.exponent, rest) := by
  cases hp : n.power with
  | none =>
    cases rest with
    | nil => simp [NumberText.powerText, hp, exponentPart]
    | cons c t =>
      have hc := (h c rfl).2
      simp [NumberText.powerText, hp, exponentPart, hc]
  | some p =>
    have hdigits := digits_append p.digits fun c hc => (h c hc).1
    simp [NumberText.powerText, Power.text, Power.exponent, hp, exponentPart, signPart_append, hdigits,
      p.digits.ne_nil]

theorem sign_append (n : NumberText) (rest : List Char) :
    decide ((n.text ++ rest).head? = some '-') = n.negative ∧
      (if (n.text ++ rest).head? = some '-' then (n.text ++ rest).tail else n.text ++ rest) =
        n.whole.chars ++ (n.fractionText ++ (n.powerText ++ rest)) := by
  cases hn : n.negative with
  | true => simp [NumberText.text, hn]
  | false =>
    cases hw : n.whole.chars with
    | nil => exact absurd hw n.whole.ne_nil
    | cons d ds =>
      have hd : d.isDigit = true := n.whole.digit d (by simp [hw])
      have hminus : d ≠ '-' := by rintro rfl; cases hd
      simp [NumberText.text, hn, hw, hminus]

theorem scan_append (ending : Cause) (n : NumberText) (h : Delimited rest) :
    scan ending (n.text ++ rest) = .ok (n.numeral, rest) := by
  have hend := h.ends_number
  have hpower : ∀ c ∈ (n.powerText ++ rest).head?, c.isDigit = false ∧ c ≠ '.' := by
    cases hp : n.power with
    | none => simpa [NumberText.powerText, hp] using fun c hc => ⟨(hend c hc).1, (hend c hc).2.1⟩
    | some p => cases hu : p.upper <;> simp [NumberText.powerText, Power.text, hp, hu]
  have hfraction : ∀ c ∈ (n.fractionText ++ (n.powerText ++ rest)).head?, c.isDigit = false := by
    cases hf : n.fraction with
    | none => simpa [NumberText.fractionText, hf] using fun c hc => (hpower c hc).1
    | some ds => simp [NumberText.fractionText, hf]
  have hwhole := wholePart_append ending n.zero hfraction
  have hfrac := fractionPart_append ending n hpower
  have hexp := exponentPart_append ending n fun c hc => ⟨(hend c hc).1, (hend c hc).2.2⟩
  obtain ⟨hnegative, hunsigned⟩ := sign_append n rest
  simp only [scan, hnegative, hunsigned, hwhole, hfrac, hexp, NumberText.numeral, bind, Except.bind,
    pure, Except.pure]

theorem le_ofDigitChars (ds : List Char) (acc : Nat) : acc ≤ Nat.ofDigitChars 10 ds acc := by
  induction ds generalizing acc with
  | nil => exact Nat.le_refl acc
  | cons d ds ih =>
    rw [Nat.ofDigitChars_cons]
    exact Nat.le_trans (by omega) (ih _)

theorem foldl_wholeDigit {ds : List Char} {acc : Nat} (h : Nat.ofDigitChars 10 ds acc < UInt64.size) :
    ds.foldl Scaled.wholeDigit { significand := acc } =
      { significand := Nat.ofDigitChars 10 ds acc } := by
  induction ds generalizing acc with
  | nil => rfl
  | cons d ds ih =>
    rw [Nat.ofDigitChars_cons] at h ⊢
    have hnext : 10 * acc + (d.toNat - '0'.toNat) < UInt64.size :=
      Nat.lt_of_le_of_lt (le_ofDigitChars _ _) h
    have hstep : Scaled.wholeDigit { significand := acc } d =
        { significand := 10 * acc + (d.toNat - '0'.toNat) } := by
      rw [Scaled.wholeDigit, digitValue, Nat.mul_comm]
      exact if_neg (by simpa using hnext)
    rw [List.foldl_cons, hstep, ih h]

end Numeral

theorem NumberText.integer?_numeral {n : NumberText} {i : Int} (hi : n.integer? = some i)
    (hmin : Int64.minValue.toInt ≤ i) (hmax : i ≤ Int64.maxValue.toInt) :
    n.numeral.integer? = some i := by
  have hrange : Int64.minValue.toInt = -2 ^ 63 ∧ Int64.maxValue.toInt = 2 ^ 63 - 1 := by decide
  have hsize : UInt64.size = 2 ^ 64 := rfl
  rw [integer?] at hi
  split at hi
  · cases hi
  · rename_i hparts
    simp only [Bool.or_eq_true, not_or, Option.not_isSome_iff_eq_none] at hparts
    have hfraction : n.numeral.fraction = none := by simp [numeral, hparts]
    have hexponent : n.numeral.exponent = none := by simp [numeral, hparts]
    have hnegative : n.numeral.negative = n.negative := rfl
    have hscaled (hv : Nat.ofDigitChars 10 n.whole.chars 0 < UInt64.size) :
        n.numeral.scaled = { significand := Nat.ofDigitChars 10 n.whole.chars 0 } := by
      simp only [Numeral.scaled, hfraction]
      exact Numeral.foldl_wholeDigit hv
    split at hi
    · rename_i hneg
      cases hi
      simp [Numeral.integer?, hscaled (by omega), hfraction, hexponent, hnegative, hneg]
    · rename_i hneg
      split at hi
      · cases hi
      · rename_i hzero
        cases hi
        simp [Numeral.integer?, hscaled (by omega), hfraction, hexponent, hnegative, hneg]
        omega

theorem number_append {n : NumberText} {i : Int} (hi : n.integer? = some i)
    (hmin : Int64.minValue.toInt ≤ i) (hmax : i ≤ Int64.maxValue.toInt) {rest : List Char}
    (h : Delimited rest) : number (n.text ++ rest) = .ok (.integer i, rest) := by
  have hvalue : n.numeral.value = .ok (.integer i) := by
    rw [Numeral.value, NumberText.integer?_numeral hi hmin hmax]
  simp [number, Numeral.scan_append _ n h, hvalue, bind, Except.bind, pure, Except.pure]

end Portrait.Json
