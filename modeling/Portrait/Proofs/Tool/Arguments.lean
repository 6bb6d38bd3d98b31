import Mathlib.Data.List.Basic
import Portrait.Tool.Arguments

/-! Which path a command line asks to check.  A path that looks like an option is read as one, unless it
stands behind two dashes. -/

namespace Portrait.Inspect

def Asks (args : List String) (path : String) : Prop :=
  ∃ level, readArguments args = some (.request (.check path) level)

variable {path : String} {place : Place} {g : Given}

theorem readArguments_check (args : List String) : readArguments ("check" :: args) =
    match ({} : Given).rest .check args with
    | .ok inner => (inner.request? .check).map (.request · (({} : Given).level inner))
    | .error answer => answer := by
  rw [readArguments, Given.start.eq_def]
  simp only [String.reduceToList, Place.ofName?]
  cases ({} : Given).rest .check args with
  | error answer => rfl
  | ok inner => cases h : inner.request? .check <;> simp [h, usageError]

/-! ### Operands -/

theorem operand_start (hpath : path ≠ "") : ({} : Given).operand path = .ok { path := some path } := by
  simp [Given.operand, hpath]

theorem rest_plain (hplain : looksLikeOption path = false) : g.rest place [path] = g.operand path := by
  rw [looksLikeOption] at hplain
  rw [Given.rest.eq_def]
  dsimp only
  split at hplain
  · cases hplain
  · rename_i hdash
    split
    · exact absurd ‹_› (hdash _ _)
    · exact absurd ‹_› (hdash _ _)
    · exact absurd ‹_› (hdash _ _)
    · cases g.operand path <;> rfl

theorem asks_of_rest {args : List String}
    (h : ({} : Given).rest .check args = .ok { path := some path }) : Asks ("check" :: args) path :=
  ⟨({} : Given).level { path := some path }, by rw [readArguments_check, h]; rfl⟩

theorem asks_plain (hpath : path ≠ "") (hplain : looksLikeOption path = false) :
    Asks ["check", path] path :=
  asks_of_rest ((rest_plain hplain).trans (operand_start hpath))

theorem asks_marked (hpath : path ≠ "") : Asks ["check", "--", path] path := by
  apply asks_of_rest
  rw [Given.rest.eq_def]
  simp only [String.reduceToList, List.foldlM_cons, operand_start hpath]
  rfl

example :
    readArguments ["-v", "check", "--", "-q"] = some (.request (.check "-q") (.ofFlags 1 false)) := by
  cbv

theorem Asks.outcome_eq {disk : Disk Id} {args : List String} (h : Asks args path) :
    (program disk args).run.2.2 =
      answer (Document.ofFile path (disk.read path)) (.check path) := by
  obtain ⟨level, h⟩ := h
  rw [program, h]
  rfl

/-! ### Options -/

inductive GivesNoPath (g : Given) : Step Given → Prop
  | goesOn : g'.path = g.path → GivesNoPath g (.ok g')
  | usageError : GivesNoPath g usageError
  | help : GivesNoPath g (.error (some .help))

theorem GivesNoPath.bind {s : Step Given} {f : Given → Step Given} (h : GivesNoPath g s)
    (hf : ∀ g', GivesNoPath g' (f g')) : GivesNoPath g (s >>= f) := by
  cases h with
  | usageError => exact .usageError
  | help => exact .help
  | @goesOn g' hpath =>
    have hnext := hf g'
    change GivesNoPath g (f g')
    generalize f g' = next at hnext ⊢
    cases hnext with
    | usageError => exact .usageError
    | help => exact .help
    | goesOn hpath' => exact .goesOn (hpath'.trans hpath)

theorem GivesNoPath.once {c : Prop} [Decidable c] {g' : Given} (hpath : g'.path = g.path) :
    GivesNoPath g (if c then Inspect.usageError else .ok g') := by
  split
  · exact .usageError
  · exact .goesOn hpath

theorem flag_givesNoPath (hplace : place ≠ .start) (g : Given) (flag : Option Flag) :
    GivesNoPath g (g.flag place flag) := by
  rw [Given.flag.eq_def]
  split
  · exact .goesOn rfl
  · exact .once rfl
  · rw [if_neg hplace]
    exact .usageError
  · exact .help
  · exact .once rfl
  · exact .once rfl
  · exact .usageError

theorem action_givesNoPath (g : Given) (text : String) : GivesNoPath g (g.action place text) := by
  rw [Given.action.eq_def]
  split
  · exact .goesOn rfl
  · exact .usageError

theorem letters_givesNoPath (hplace : place ≠ .start) (g : Given) (letters : List Char) :
    GivesNoPath g (letters.foldlM (fun g c => g.flag place (Flag.ofLetter? c)) g) := by
  induction letters generalizing g with
  | nil => exact .goesOn rfl
  | cons c letters ih =>
    rw [List.foldlM_cons]
    exact (flag_givesNoPath hplace g _).bind ih

theorem option_givesNoPath (hplace : place ≠ .start) (g : Given) (text : List Char) :
    GivesNoPath g (g.option place text) := by
  rw [Given.option.eq_def]
  split
  · split
    · exact action_givesNoPath g _
    · exact flag_givesNoPath hplace g _
  · exact letters_givesNoPath hplace g _

theorem rest_givesNoPath (hplace : place ≠ .start) (hoption : looksLikeOption path = true) :
    GivesNoPath g (g.rest place [path]) := by
  rw [Given.rest.eq_def]
  dsimp only
  split
  · exact .goesOn rfl
  · exact .usageError
  · rename_i c cs _ _ _
    have hgives := option_givesNoPath hplace g (c :: cs)
    generalize g.option place (c :: cs) = step at hgives ⊢
    cases hgives with
    | goesOn hpath => exact .goesOn hpath
    | usageError => exact .usageError
    | help => exact .help
  · rename_i hother
    rw [looksLikeOption] at hoption
    split at hoption
    · exact absurd ‹_› (hother _ _)
    · cases hoption

theorem readArguments_option (hoption : looksLikeOption path = true) :
    readArguments ["check", path] = none ∨ readArguments ["check", path] = some .help := by
  have hgives : GivesNoPath {} (({} : Given).rest .check [path]) :=
    rest_givesNoPath (by decide) hoption
  rw [readArguments_check]
  generalize ({} : Given).rest .check [path] = step at hgives ⊢
  cases hgives with
  | goesOn hpath =>
    left
    simp [Given.request?, hpath]
  | usageError => exact .inl rfl
  | help => exact .inr rfl

end Portrait.Inspect
