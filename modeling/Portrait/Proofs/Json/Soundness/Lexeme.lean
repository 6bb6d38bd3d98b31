import Portrait.Proofs.Json.Lexeme

/-! What the scanners accept: each takes a token of the grammar off the text, and answers what it
stands for. -/

namespace Portrait.Json

instance : Append Blanks where
  append b b' := ⟨b.text ++ b'.text, List.forall_mem_append.mpr ⟨b.blank, b'.blank⟩⟩

@[simp] theorem Blanks.text_append (b b' : Blanks) : (b ++ b').text = b.text ++ b'.text := rfl

theorem exists_blanks {s t : List Char} (h : skipBlanks s = t) : ∃ b : Blanks, s = b.text ++ t :=
  ⟨⟨s.takeWhile isBlank, fun _ => List.mem_takeWhile_imp⟩, h ▸ List.takeWhile_append_dropWhile.symm⟩

theorem eq_append_of_word {w s r : List Char} (h : word w s = .ok r) : s = w ++ r := by
  fun_induction word w s with
  | case1 s => rw [List.nil_append, Except.ok.inj h]
  | case2 => cases h
  | case3 w ws s ih => rw [ih h, List.cons_append]
  | case4 => cases h

/-! ### Strings -/

variable {s r : List Char} {c : Char} {n : Nat}

theorem exists_codeUnit (h : fourHex s = .ok (n, r)) :
    ∃ u : CodeUnit, u.value = n ∧ '\\' :: 'u' :: s = u.text ++ r := by
  unfold fourHex at h
  split at h
  · rename_i a b c d t
    split at h
    · rename_i hn
      cases h
      exact ⟨⟨a, b, c, d, n, hn⟩, rfl, rfl⟩
    · cases h
  · split at h <;> cases h

theorem exists_trailing (h : trailingHalf n s = .ok (c, r)) :
    ∃ u : CodeUnit, isTrailing u.value = true ∧ c = surrogatePair n u.value ∧ s = u.text ++ r := by
  unfold trailingHalf at h
  split at h
  · split at h
    · cases h
    · rename_i hx
      obtain ⟨u, rfl, htext⟩ := exists_codeUnit hx
      split at h
      · rename_i ht
        obtain ⟨rfl, rfl⟩ := Prod.mk.inj (Except.ok.inj h)
        exact ⟨u, ht, rfl, htext⟩
      · cases h
  all_goals cases h

theorem exists_numbered (h : numberedEscape s = .ok (c, r)) :
    ∃ g : Glyph, g.char? = some c ∧ '\\' :: 'u' :: s = g.text ++ r := by
  unfold numberedEscape at h
  split at h
  · cases h
  · rename_i hx
    obtain ⟨u, rfl, htext⟩ := exists_codeUnit hx
    split at h
    · cases h
    · rename_i htrailing
      split at h
      · rename_i hleading
        obtain ⟨v, hv, hc, hr⟩ := exists_trailing h
        exact ⟨.pair u v ⟨hleading, hv⟩, congrArg some hc.symm,
          by rw [htext, hr, Glyph.text, List.append_assoc]⟩
      · rename_i hleading
        obtain ⟨rfl, rfl⟩ := Prod.mk.inj (Except.ok.inj h)
        exact ⟨.numbered u, by simp [Glyph.char?, htrailing, hleading], htext⟩

theorem exists_escape (h : escape s = .ok (c, r)) :
    ∃ g : Glyph, g.char? = some c ∧ '\\' :: s = g.text ++ r := by
  unfold escape at h
  split at h
  · cases h
  · rename_i letter t
    split at h
    · rename_i he
      cases h
      exact ⟨.short letter c he, rfl, rfl⟩
    · split at h
      · rename_i hu
        subst hu
        exact exists_numbered h
      · cases h

theorem Spelling.tail_cons (g : Glyph) (w : Spelling) : Spelling.tail (g :: w) = g.text ++ w.tail := by
  simp [Spelling.tail]

theorem exists_spelling_from {acc : List Char} {x : String} (h : stringFrom acc s = .ok (x, r)) :
    ∃ (w : Spelling) (cs : List Char), w.map Glyph.char? = cs.map some ∧
      x = String.ofList (acc.reverse ++ cs) ∧ s = w.tail ++ r := by
  fun_induction stringFrom acc s with
  | case1 | case3 | case5 => cases h
  | case2 acc s =>
    cases h
    exact ⟨[], [], rfl, by simp, rfl⟩
  | case4 acc s e u he _ _ ih =>
    obtain ⟨g, hg, htext⟩ := exists_escape he
    obtain ⟨w, cs, hw, hx, rfl⟩ := ih h
    refine ⟨g :: w, e :: cs, by simp [hg, hw], by simp [hx], ?_⟩
    rw [htext, Spelling.tail_cons, List.append_assoc]
  | case6 acc c t hquote hslash hcontrol ih =>
    obtain ⟨w, cs, hw, hx, rfl⟩ := ih h
    exact ⟨.plain c ⟨hquote, hslash, Nat.not_lt.mp hcontrol⟩ :: w, c :: cs,
      by simp [Glyph.char?, hw], by simp [hx], rfl⟩

theorem exists_spelling_of_stringFrom {x : String} (h : stringFrom [] s = .ok (x, r)) :
    ∃ w : Spelling, w.Spells x ∧ s = w.tail ++ r := by
  obtain ⟨w, cs, hw, rfl, hs⟩ := exists_spelling_from h
  exact ⟨w, by simpa [Spelling.Spells] using hw, hs⟩

theorem exists_spelling_of_skipString (h : skipString s = .ok r) : ∃ w : Spelling, s = w.tail ++ r := by
  fun_induction skipString s with
  | case1 | case3 | case5 | case7 | case8 => cases h
  | case2 =>
    cases h
    exact ⟨[], rfl⟩
  | case4 e u he _ ih =>
    obtain ⟨w, rfl⟩ := ih h
    obtain ⟨c, hc⟩ := Option.isSome_iff_exists.mp he
    exact ⟨.short e c hc :: w, rfl⟩
  | case6 u n t hx _ _ _ ih =>
    obtain ⟨v, -, htext⟩ := exists_codeUnit hx
    obtain ⟨w, rfl⟩ := ih h
    exact ⟨.numbered v :: w, by rw [htext, Spelling.tail_cons, List.append_assoc, Glyph.text]⟩
  | case9 c t hquote hslash hcontrol ih =>
    obtain ⟨w, rfl⟩ := ih h
    exact ⟨.plain c ⟨hquote, hslash, Nat.not_lt.mp hcontrol⟩ :: w, rfl⟩

/-! ### Numbers -/

namespace Numeral

variable {ending : Cause} {ds : List Char}

theorem exists_digits (hne : ¬ (digits s).1.isEmpty = true) :
    ∃ d : Digits, d.chars = (digits s).1 ∧ s = d.chars ++ (digits s).2 :=
  ⟨⟨(digits s).1, mt List.isEmpty_iff.mpr hne, fun _ => List.mem_takeWhile_imp⟩, rfl,
    List.takeWhile_append_dropWhile.symm⟩

theorem exists_whole (h : wholePart ending s = .ok (ds, r)) :
    ∃ d : Digits, d.chars = ds ∧ (ds.head? = some '0' → ds = ['0']) ∧ s = ds ++ r := by
  unfold wholePart at h
  split at h
  · cases h
  · split at h
    · cases h
    · cases h
      exact ⟨⟨['0'], by simp, by simp⟩, rfl, fun _ => rfl, rfl⟩
  · rename_i c t hzero
    split at h
    · rename_i hc
      have hhead : (digits (c :: t)).1 = c :: t.takeWhile Char.isDigit := List.takeWhile_cons_of_pos hc
      obtain rfl : (digits (c :: t)).1 = ds := congrArg Prod.fst (Except.ok.inj h)
      obtain rfl : (digits (c :: t)).2 = r := congrArg Prod.snd (Except.ok.inj h)
      obtain ⟨d, hd, htext⟩ := exists_digits (s := c :: t) (by simp [hhead])
      refine ⟨d, hd, fun h0 => ?_, hd ▸ htext⟩
      rw [hhead, List.head?_cons, Option.some.injEq] at h0
      exact absurd h0 hzero
    · cases h

theorem exists_fraction {f : Option (List Char)} (h : fractionPart ending s = .ok (f, r)) :
    ∃ d? : Option Digits, d?.map (·.chars) = f ∧
      s = (d?.elim [] fun ds => '.' :: ds.chars) ++ r := by
  unfold fractionPart at h
  split at h
  · rename_i t
    dsimp only at h
    split at h
    · cases h
    · rename_i hne
      cases h
      obtain ⟨d, hd, htext⟩ := exists_digits hne
      exact ⟨some d, by rw [Option.map_some, hd], congrArg (List.cons '.') htext⟩
  · cases h
    exact ⟨none, rfl, rfl⟩

theorem exists_sign (s : List Char) : ∃ negative? : Option Bool, ∀ upper digits,
    Power.negative ⟨upper, negative?, digits⟩ = (signPart s).1 ∧
      s = Power.signText ⟨upper, negative?, digits⟩ ++ (signPart s).2 := by
  unfold signPart
  split
  · exact ⟨some false, fun _ _ => ⟨rfl, rfl⟩⟩
  · exact ⟨some true, fun _ _ => ⟨rfl, rfl⟩⟩
  · exact ⟨none, fun _ _ => ⟨rfl, rfl⟩⟩

theorem exists_power {e : Option Exponent} (h : exponentPart ending s = .ok (e, r)) :
    ∃ p? : Option Power, p?.map Power.exponent = e ∧ s = p?.elim [] Power.text ++ r := by
  unfold exponentPart at h
  split at h
  · rename_i c t
    split at h
    · rename_i hc
      dsimp only at h
      split at h
      · cases h
      · rename_i hne
        cases h
        obtain ⟨negative?, hsign⟩ := exists_sign t
        obtain ⟨d, hd, htext⟩ := exists_digits hne
        obtain ⟨hnegative, hsigned⟩ := hsign (c = 'E') d
        refine ⟨some ⟨c = 'E', negative?, d⟩, by simp [Power.exponent, hnegative, hd], ?_⟩
        rw [Option.elim_some, Power.text, List.cons_append, List.append_assoc, ← htext, ← hsigned]
        rcases hc with rfl | rfl <;> rfl
    · cases h
      exact ⟨none, rfl, rfl⟩
  · cases h
    exact ⟨none, rfl, rfl⟩

theorem exists_numberText {n : Numeral} (h : scan ending s = .ok (n, r)) :
    ∃ x : NumberText, x.numeral = n ∧ s = x.text ++ r := by
  simp only [scan, bind, Except.bind, pure, Except.pure] at h
  split at h
  · cases h
  · rename_i hw
    split at h
    · cases h
    · rename_i hf
      split at h
      · cases h
      · rename_i he
        cases h
        obtain ⟨whole, hwhole, hzero, hwtext⟩ := exists_whole hw
        obtain ⟨fraction, hfraction, hftext⟩ := exists_fraction hf
        obtain ⟨power, hpower, hptext⟩ := exists_power he
        refine ⟨⟨s.head? = some '-', whole, hwhole ▸ hzero, fraction, power⟩, ?_, ?_⟩
        · simp [NumberText.numeral, hwhole, hfraction, hpower]
        · have hsign : s = (if s.head? = some '-' then ['-'] else []) ++
              if s.head? = some '-' then s.tail else s := by
            cases s with
            | nil => rfl
            | cons c t => by_cases hc : c = '-' <;> simp [hc]
          rw [hwtext, hftext, hptext] at hsign
          simp only [NumberText.text, NumberText.fractionText, NumberText.powerText, hwhole,
            List.append_assoc, decide_eq_true_eq]
          exact hsign

theorem full_foldl_wholeDigit {x : Scaled} (h : x.full = true) (ds : List Char) :
    (ds.foldl Scaled.wholeDigit x).full = true := by
  induction ds generalizing x with
  | nil => exact h
  | cons d ds ih => exact ih (by simp [Scaled.wholeDigit, h])

theorem significand_foldl_wholeDigit {ds : List Char} {x : Scaled}
    (h : (ds.foldl Scaled.wholeDigit x).full = false) :
    (ds.foldl Scaled.wholeDigit x).significand = Nat.ofDigitChars 10 ds x.significand := by
  induction ds generalizing x with
  | nil => rfl
  | cons d ds ih =>
    rw [List.foldl_cons] at h ⊢
    rw [ih h, Nat.ofDigitChars_cons]
    by_cases hfull : x.full = true ∨ UInt64.size ≤ x.significand * 10 + digitValue d
    · have : (x.wholeDigit d).full = true := by simp [Scaled.wholeDigit, hfull]
      rw [full_foldl_wholeDigit this] at h
      cases h
    · rw [Scaled.wholeDigit, if_neg hfull, digitValue, Nat.mul_comm]

theorem integer?_of_value {n : Numeral} {i : Int} (h : n.value = .ok (.integer i)) :
    n.integer? = some i := by
  unfold value at h
  split at h
  · rename_i hi
    cases h
    exact hi
  · dsimp only at h
    repeat' split at h
    all_goals cases h

end Numeral

theorem NumberText.integer?_of_numeral {n : NumberText} {i : Int} (h : n.numeral.integer? = some i) :
    n.integer? = some i := by
  rw [Numeral.integer?] at h
  split at h
  · cases h
  · rename_i hparts
    simp only [not_or, Bool.not_eq_true, Option.isSome_eq_false_iff, Option.isNone_iff_eq_none]
      at hparts
    obtain ⟨hfraction, hexponent, hfull⟩ := hparts
    have hscaled : n.numeral.scaled = n.whole.chars.foldl Numeral.Scaled.wholeDigit {} := by
      rw [Numeral.scaled, hfraction]
      rfl
    have hparts : (n.fraction.isSome || n.power.isSome) = false := by
      simpa [numeral] using And.intro hfraction hexponent
    rw [hscaled] at h hfull
    rw [Numeral.significand_foldl_wholeDigit hfull] at h
    cases hnegative : n.negative with
    | false => simpa [integer?, hparts, hnegative, numeral] using h
    | true =>
      simp only [numeral, hnegative, Bool.not_true, Bool.false_eq_true, if_false,
        Option.ite_none_right_eq_some] at h
      simp only [integer?, hparts, hnegative, Bool.not_true, Bool.false_eq_true, if_false]
      rw [if_neg (by omega)]
      exact h.2

theorem exists_numberText_of_number {i : Int} (h : number s = .ok (.integer i, r)) :
    ∃ n : NumberText, n.integer? = some i ∧ s = n.text ++ r := by
  simp only [number, bind, Except.bind] at h
  split at h
  · cases h
  · rename_i hs
    split at h
    · rename_i hx
      cases h
      obtain ⟨n, hn, htext⟩ := Numeral.exists_numberText hs
      rw [← hn] at hx
      exact ⟨n, n.integer?_of_numeral (Numeral.integer?_of_value hx), htext⟩
    · cases h

end Portrait.Json
