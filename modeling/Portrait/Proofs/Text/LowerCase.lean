import Mathlib.Data.List.Infix
import Portrait.Text.LowerCase

/-! Words in a lower-cased text.  A character of ASCII becomes one of ASCII.  Of all others two alone become
a text with a character of ASCII in it: the Kelvin sign, which becomes a `k`, and `İ`, which becomes an `i`
with a dot behind it.  So a word of ASCII that has no `k` and does not end in `i` is found in a lower-cased
text just if it is found in the text itself up to the case of ASCII letters. -/

namespace Portrait.Text

def IsAscii (c : Char) : Prop := c.toNat < 128

instance : DecidablePred IsAscii := fun c => inferInstanceAs (Decidable (c.toNat < 128))

inductive LowersTo : Char → List Char → Prop
  | ascii {c : Char} : IsAscii c → LowersTo c [c.toLower]
  | dotted : LowersTo 'İ' ['i', '\u0307']
  | foreign {c d : Char} : ¬ IsAscii c → d = 'k' ∨ ¬ IsAscii d → LowersTo c [d]

/-- A word in lower case that nothing but characters of ASCII is lower-cased to. -/
def Unmistakable (word : List Char) : Prop :=
  (∀ c ∈ word, IsAscii c ∧ c.toLower = c ∧ c ≠ 'k') ∧ word.getLast? ≠ some 'i'

-- All characters could be tried as well, which takes too long.
instance (word : List Char) : Decidable (Unmistakable word) :=
  haveI := List.decidableBAll (fun c : Char => IsAscii c ∧ c.toLower = c ∧ c ≠ 'k') word
  inferInstanceAs (Decidable (_ ∧ _))

variable {c d : Char} {word cs : List Char}

theorem hasInfix_iff : hasInfix word cs = true ↔ word <:+: cs := by
  induction cs with
  | nil => rw [hasInfix, List.isEmpty_iff, List.infix_nil]
  | cons c cs ih => rw [hasInfix, Bool.or_eq_true, List.isPrefixOf_iff_prefix, ih, List.infix_cons_iff]

theorem IsAscii.ne_of_not_isAscii (hc : IsAscii c) (hd : ¬ IsAscii d) : c ≠ d := fun h => hd (h ▸ hc)

theorem toLower_of_not_isAscii (h : ¬ IsAscii c) : c.toLower = c := by
  refine dif_neg fun hcapital => h ?_
  have hle : c.toNat ≤ 'Z'.toNat := UInt32.le_iff_toNat_le.mp hcapital.2
  exact Nat.lt_of_le_of_lt hle (by decide)

/-! ### The table -/

def CaseRange.StaysForeign (r : CaseRange) : Prop :=
  r.target = 'k'.toNat ∧ r.last = r.first ∨
    128 ≤ r.target ∧ r.target + (r.last - r.first) < 0xD800 ∨
    0xDFFF < r.target ∧ r.target + (r.last - r.first) < 0x110000

instance (r : CaseRange) : Decidable r.StaysForeign := inferInstanceAs (Decidable (_ ∨ _))

theorem CaseRange.bounds_of_lower? {r : CaseRange} {n m : Nat} (h : r.lower? n = some m) :
    r.first ≤ n ∧ n ≤ r.last ∧ m = r.target + (n - r.first) := by
  rw [lower?, Option.ite_none_right_eq_some] at h
  obtain ⟨⟨hfirst, hlast, -⟩, hm⟩ := h
  exact ⟨hfirst, hlast, (Option.some.inj hm).symm⟩

theorem CaseRange.StaysForeign.of_lower? {r : CaseRange} (h : r.StaysForeign) {n m : Nat}
    (hm : r.lower? n = some m) : Char.ofNat m = 'k' ∨ ¬ IsAscii (Char.ofNat m) := by
  obtain ⟨hfirst, hlast, rfl⟩ := bounds_of_lower? hm
  obtain ⟨hk, hone⟩ | hforeign := h
  · obtain rfl : n = r.first := by omega
    rw [hk, Nat.sub_self]
    exact .inl rfl
  · have hvalid : (r.target + (n - r.first)).isValidChar := by
      unfold Nat.isValidChar
      omega
    have htoNat : (Char.ofNat (r.target + (n - r.first))).toNat = r.target + (n - r.first) := by
      rw [Char.ofNat, dif_pos hvalid]
      rfl
    rw [IsAscii, htoNat]
    omega

def asciiCapitals : CaseRange := ⟨0x41, 0x5A, 1, 0x61⟩

theorem caseRanges_eq : caseRanges = asciiCapitals :: caseRanges.tail := rfl

theorem foreign_of_mem_tail : ∀ r ∈ caseRanges.tail, 128 ≤ r.first ∧ r.StaysForeign := by
  decide +kernel

theorem lowerChar_of_isAscii (h : IsAscii c) : lowerChar c = [c.toLower] := by
  have hforeign : caseRanges.tail.findSome? (·.lower? c.toNat) = none := by
    refine List.findSome?_eq_none_iff.mpr fun r hr => Option.eq_none_iff_forall_ne_some.mpr fun m hm => ?_
    obtain ⟨hfirst, -⟩ := CaseRange.bounds_of_lower? hm
    exact absurd (Nat.lt_of_le_of_lt hfirst h) (Nat.not_lt.mpr (foreign_of_mem_tail r hr).1)
  have hcapitals : ∀ n < 128, ((asciiCapitals.lower? n).map Char.ofNat).getD (Char.ofNat n) =
      (Char.ofNat n).toLower := by
    decide +kernel
  have hc := hcapitals c.toNat h
  rw [Char.ofNat_toNat] at hc
  rw [lowerChar, if_neg (h.ne_of_not_isAscii (by decide)), caseRanges_eq, List.findSome?_cons,
    hforeign, ← hc]
  cases asciiCapitals.lower? c.toNat <;> rfl

theorem lowersTo_lowerChar (c : Char) : LowersTo c (lowerChar c) := by
  by_cases hc : IsAscii c
  · rw [lowerChar_of_isAscii hc]
    exact .ascii hc
  rw [lowerChar]
  split_ifs with hdotted
  · exact hdotted ▸ .dotted
  · cases hrow : caseRanges.findSome? (·.lower? c.toNat) with
    | none => exact .foreign hc (.inr hc)
    | some n =>
      obtain ⟨r, hr, hn⟩ := List.exists_of_findSome?_eq_some hrow
      rw [caseRanges_eq] at hr
      obtain rfl | hr := List.mem_cons.mp hr
      · obtain ⟨-, hlast, -⟩ := CaseRange.bounds_of_lower? hn
        exact absurd (Nat.lt_of_le_of_lt hlast (by decide)) hc
      · exact .foreign hc ((foreign_of_mem_tail r hr).2.of_lower? hn)

theorem exists_lowersTo (before : List Char) (c : Char) (cs : List Char) : ∃ lowered, LowersTo c lowered ∧
    lowerAfter before (c :: cs) = lowered ++ lowerAfter (c :: before) cs := by
  refine ⟨_, ?_, rfl⟩
  split_ifs with hsigma hfinal
  · exact .foreign (hsigma ▸ by decide) (.inr (by decide))
  · exact .foreign (hsigma ▸ by decide) (.inr (by decide))
  · exact lowersTo_lowerChar c

/-! ### Words -/

theorem Unmistakable.of_cons (h : Unmistakable (c :: word)) : Unmistakable word := by
  refine ⟨fun d hd => h.1 d (List.mem_cons_of_mem c hd), fun hlast => h.2 ?_⟩
  cases word with
  | nil => cases hlast
  | cons d word => rwa [List.getLast?_cons_cons]

theorem Unmistakable.eq_nil (h : Unmistakable word) (hd : ¬ IsAscii d) (hword : word <+: d :: cs) :
    word = [] := by
  cases word with
  | nil => rfl
  | cons c word =>
    obtain ⟨hcd, -⟩ := List.cons_prefix_cons.mp hword
    exact absurd hcd ((h.1 c List.mem_cons_self).1.ne_of_not_isAscii hd)

theorem prefix_lowerAfter_iff (h : Unmistakable word) (before cs : List Char) :
    word <+: lowerAfter before cs ↔ word <+: cs.map Char.toLower := by
  induction word generalizing before cs with
  | nil => exact iff_of_true List.nil_prefix List.nil_prefix
  | cons a word ih =>
    cases cs with
    | nil => rfl
    | cons c cs =>
      obtain ⟨ha, -, hk⟩ := h.1 a List.mem_cons_self
      obtain ⟨lowered, hlowered, hcs⟩ := exists_lowersTo before c cs
      rw [hcs, List.map_cons, List.cons_prefix_cons]
      cases hlowered with
      | ascii hc => rw [List.singleton_append, List.cons_prefix_cons, ih h.of_cons]
      | dotted =>
        refine iff_of_false (fun hword => ?_) fun hword => ?_
        · obtain ⟨rfl, hrest⟩ := List.cons_prefix_cons.mp hword
          obtain rfl := h.of_cons.eq_nil (by decide : ¬ IsAscii '\u0307') hrest
          exact h.2 rfl
        · exact ha.ne_of_not_isAscii (by decide) hword.1
      | foreign hc hd =>
        refine iff_of_false (fun hword => ?_) fun hword => ?_
        · obtain ⟨rfl, -⟩ := List.cons_prefix_cons.mp hword
          exact hd.elim hk (absurd ha)
        · rw [toLower_of_not_isAscii hc] at hword
          exact ha.ne_of_not_isAscii hc hword.1

theorem infix_lowerAfter_iff (h : Unmistakable word) (before cs : List Char) :
    word <:+: lowerAfter before cs ↔ word <:+: cs.map Char.toLower := by
  induction cs generalizing before with
  | nil => rfl
  | cons c cs ih =>
    rw [List.map_cons, List.infix_cons_iff, ← List.map_cons, ← prefix_lowerAfter_iff h before,
      ← ih (c :: before)]
    obtain ⟨lowered, hlowered, hcs⟩ := exists_lowersTo before c cs
    rw [hcs]
    cases hlowered with
    | ascii | foreign => exact List.infix_cons_iff
    | dotted =>
      -- Nothing but the empty word begins at the dot.
      have hdot : word <+: '\u0307' :: lowerAfter ('İ' :: before) cs →
          word <:+: lowerAfter ('İ' :: before) cs := by
        intro hword
        exact h.eq_nil (by decide) hword ▸ List.nil_infix
      rw [List.cons_append, List.singleton_append, List.infix_cons_iff, List.infix_cons_iff,
        or_iff_right_of_imp hdot]

/-- The lower case of all letters has the words in it that the lower case of ASCII letters has. -/
theorem infix_lowerCase_iff (h : Unmistakable word) (cs : List Char) :
    word <:+: lowerCase cs ↔ word <:+: cs.map Char.toLower :=
  infix_lowerAfter_iff h [] cs

/-- The Kelvin sign becomes a part of a word. -/
example : "ok".toList <:+: lowerCase "o\u212A".toList ∧
    ¬ "ok".toList <:+: "o\u212A".toList.map Char.toLower := by
  decide +kernel

/-! ### Texts that mention a word -/

def Mentions (text word : List Char) : Prop :=
  ∃ part, part <:+: text ∧ part.map Char.toLower = word.map Char.toLower

theorem mentions_iff : Mentions cs word ↔ word.map Char.toLower <:+: cs.map Char.toLower := by
  simp only [Mentions, List.infix_map_iff, eq_comm]

instance (text word : List Char) : Decidable (Mentions text word) := decidable_of_iff _ mentions_iff.symm

theorem Unmistakable.map_toLower (h : Unmistakable word) : word.map Char.toLower = word :=
  (List.map_congr_left fun c hc => (h.1 c hc).2.1).trans word.map_id

theorem hasInfix_lowerCase_iff (h : Unmistakable word) (cs : List Char) :
    hasInfix word (lowerCase cs) = true ↔ Mentions cs word := by
  rw [hasInfix_iff, infix_lowerCase_iff h, mentions_iff, h.map_toLower]

def ascii? (c : Char) : Option Char := if IsAscii c then some c else none

theorem map_toLower_ascii?_eq_some_iff (hd : IsAscii d) :
    (ascii? c).map Char.toLower = some d ↔ c.toLower = d := by
  by_cases hc : IsAscii c
  · rw [ascii?, if_pos hc, Option.map_some, Option.some_inj]
  · rw [ascii?, if_neg hc, toLower_of_not_isAscii hc]
    exact iff_of_false nofun (hd.ne_of_not_isAscii hc).symm

theorem map_toLower_map_ascii?_eq_iff (hword : ∀ c ∈ word, IsAscii c) :
    (cs.map ascii?).map (Option.map Char.toLower) = word.map some ↔ cs.map Char.toLower = word := by
  induction cs generalizing word with
  | nil => cases word <;> simp
  | cons c cs ih =>
    cases word with
    | nil => exact iff_of_false nofun nofun
    | cons d word =>
      obtain ⟨hd, hword⟩ := List.forall_mem_cons.mp hword
      simp only [List.map_cons, List.cons.injEq, map_toLower_ascii?_eq_some_iff hd, ih hword]

theorem mentions_iff_ascii (h : Unmistakable word) (cs : List Char) :
    Mentions cs word ↔ word.map some <:+: (cs.map ascii?).map (Option.map Char.toLower) := by
  have hword : ∀ c ∈ word, IsAscii c := fun c hc => (h.1 c hc).1
  rw [Mentions, h.map_toLower, List.map_map, List.infix_map_iff]
  refine exists_congr fun part => and_congr_right fun _ => ?_
  rw [← List.map_map, eq_comm (a := word.map some), map_toLower_map_ascii?_eq_iff hword]

end Portrait.Text
