import Mathlib.Data.String.Basic

/-! Offsets in bytes: where the characters of a text stand, where a pattern stands first, and what is on
either side of an offset.  A text is not cut within a character. -/

namespace Portrait.Text

def charsFrom (start : Nat) : List Char → List (Nat × Char)
  | [] => []
  | c :: cs => (start, c) :: charsFrom (start + c.utf8Size) cs

def firstAt? {α : Type} (f : Char → Option α) (s : String) : Option (Nat × α) :=
  (charsFrom 0 s.toList).findSome? fun (offset, c) => (f c).map (offset, ·)

def offsetOf? (pattern : List Char) : List Char → Option Nat
  | [] => if pattern.isEmpty then some 0 else none
  | c :: cs =>
    if pattern.isPrefixOf (c :: cs) then some 0
    else (offsetOf? pattern cs).map (c.utf8Size + ·)

def before? (s : String) (offset : Nat) : Option String :=
  if h : String.Pos.Raw.IsValid s ⟨offset⟩ then some (s.sliceTo (s.pos ⟨offset⟩ h)).copy else none

def after? (s : String) (offset : Nat) : Option String :=
  if h : String.Pos.Raw.IsValid s ⟨offset⟩ then some (s.sliceFrom (s.pos ⟨offset⟩ h)).copy else none

section Cut

variable (a b : String)

theorem isValid_utf8ByteSize : String.Pos.Raw.IsValid (a ++ b) ⟨a.utf8ByteSize⟩ :=
  String.Pos.Raw.isValid_iff_exists_append.mpr ⟨a, b, rfl, rfl⟩

theorem splits_utf8ByteSize :
    ((a ++ b).pos ⟨a.utf8ByteSize⟩ (isValid_utf8ByteSize a b)).Splits a b :=
  ⟨rfl, rfl⟩

theorem before?_append : before? (a ++ b) a.utf8ByteSize = some a := by
  rw [before?, dif_pos (isValid_utf8ByteSize a b)]
  exact congrArg some ((String.Pos.splits _).eq (splits_utf8ByteSize a b)).1

theorem after?_append : after? (a ++ b) a.utf8ByteSize = some b := by
  rw [after?, dif_pos (isValid_utf8ByteSize a b)]
  exact congrArg some ((String.Pos.splits _).eq (splits_utf8ByteSize a b)).2

end Cut

/-- The first character takes two bytes. -/
example : before? "é+" 1 = none ∧ after? "é+" 4 = none := by decide

section First

variable {α : Type} {f : Char → Option α}

theorem findSome?_charsFrom_eq_none {cs : List Char} (h : ∀ c ∈ cs, f c = none) (start : Nat) :
    (charsFrom start cs).findSome? (fun (offset, c) => (f c).map (offset, ·)) = none := by
  induction cs generalizing start with
  | nil => rfl
  | cons c cs ih =>
    obtain ⟨hc, hcs⟩ := List.forall_mem_cons.mp h
    rw [charsFrom, List.findSome?_cons_of_isNone (by simp [hc]), ih hcs]

theorem findSome?_charsFrom {before after : List Char} {c : Char} {x : α}
    (hbefore : ∀ d ∈ before, f d = none) (hc : f c = some x) (start : Nat) :
    (charsFrom start (before ++ c :: after)).findSome? (fun (offset, c) => (f c).map (offset, ·)) =
      some (start + (String.ofList before).utf8ByteSize, x) := by
  induction before generalizing start with
  | nil => simp [charsFrom, hc]
  | cons d before ih =>
    obtain ⟨hd, hrest⟩ := List.forall_mem_cons.mp hbefore
    rw [List.cons_append, charsFrom, List.findSome?_cons_of_isNone (by simp [hd]), ih hrest,
      String.utf8ByteSize_ofList, String.utf8ByteSize_ofList, String.utf8Len_cons, Nat.add_assoc,
      Nat.add_comm d.utf8Size]

theorem firstAt?_eq_none {s : String} (h : ∀ c ∈ s.toList, f c = none) : firstAt? f s = none :=
  findSome?_charsFrom_eq_none h 0

theorem firstAt?_append {before after : List Char} {c : Char} {x : α}
    (hbefore : ∀ d ∈ before, f d = none) (hc : f c = some x) :
    firstAt? f (.ofList (before ++ c :: after)) =
      some ((String.ofList before).utf8ByteSize, x) := by
  rw [firstAt?, String.toList_ofList, findSome?_charsFrom hbefore hc, Nat.zero_add]

end First

end Portrait.Text
