import Mathlib.Data.List.Find
import Portrait.Proofs.Text.LowerCase
import Portrait.Sprite.BlendMode

/-! The mode that a layer name asks for is told by the characters of ASCII in the name. -/

namespace Portrait.BlendMode

open Text

theorem unmistakable_of_mem_named : ∀ mode ∈ named, Unmistakable (toString mode).toList := by
  decide

theorem find?_named (p : BlendMode → Bool) : (named.find? p).getD .normal =
    if p .overlay then .overlay else if p .softLight then .softLight
    else if p .multiply then .multiply else .normal := by
  simp only [named, List.find?_cons, List.find?_nil]
  cases p .overlay <;> cases p .softLight <;> cases p .multiply <;> rfl

theorem ofLayerName_eq_find? (name : String) : ofLayerName name =
    (named.find? fun mode => decide (Mentions name.toList (toString mode).toList)).getD .normal := by
  refine congrArg (Option.getD · BlendMode.normal) (List.find?_congr fun mode hmode => ?_)
  rw [Bool.eq_iff_iff, hasInfix_lowerCase_iff (unmistakable_of_mem_named mode hmode), decide_eq_true_iff]

/-- The first of the words `overlay`, `softlight` and `multiply` that is found in the name, up to the case of
ASCII letters, decides.  Names with the same characters of ASCII at the same places ask for the same mode,
whatever their other characters are lower-cased to. -/
theorem mode_told_by_ascii :
    (∀ name, ofLayerName name =
      if Mentions name.toList "overlay".toList then .overlay
      else if Mentions name.toList "softlight".toList then .softLight
      else if Mentions name.toList "multiply".toList then .multiply
      else .normal) ∧
    ∀ name name' : String, name.toList.map ascii? = name'.toList.map ascii? →
      ofLayerName name = ofLayerName name' := by
  refine ⟨fun name => ?words, fun name name' hascii => ?others⟩
  case words =>
    rw [ofLayerName_eq_find?, find?_named]
    simp only [decide_eq_true_iff]
    rfl
  case others =>
    rw [ofLayerName_eq_find?, ofLayerName_eq_find?]
    refine congrArg (Option.getD · BlendMode.normal) (List.find?_congr fun mode hmode => ?_)
    have h := unmistakable_of_mem_named mode hmode
    rw [decide_eq_decide, mentions_iff_ascii h, mentions_iff_ascii h, hascii]

/-- The dotted capital stands apart from the letter after it, and the Kelvin sign is in no word. -/
example : ofLayerName "SOFTL\u0130GHT\u212A_MULTIPLY" = .multiply := by decide +kernel

end Portrait.BlendMode
