import Portrait.Text.CaseRanges

/-! Lower case of a text.  One letter may become two, and a capital sigma takes its final form after a
cased letter that no cased letter follows. -/

namespace Portrait.Text

def inRanges (ranges : List (Nat × Nat)) (c : Char) : Bool :=
  ranges.any fun r => r.1 ≤ c.toNat && c.toNat ≤ r.2

def CaseRange.lower? (r : CaseRange) (n : Nat) : Option Nat :=
  if r.first ≤ n ∧ n ≤ r.last ∧ (n - r.first) % r.stride = 0 then some (r.target + (n - r.first))
  else none

def lowerChar (c : Char) : List Char :=
  if c = 'İ' then ['i', '\u0307']
  else match caseRanges.findSome? (·.lower? c.toNat) with
    | some n => [Char.ofNat n]
    | none => [c]

def isCased (c : Char) : Bool := inRanges casedRanges c

def isCaseIgnorable (c : Char) : Bool := inRanges caseIgnorableRanges c

def startsCased (cs : List Char) : Bool := match cs.dropWhile isCaseIgnorable with
  | c :: _ => isCased c
  | [] => false

/-- The first argument is the text before, nearest character first. -/
def lowerAfter : List Char → List Char → List Char
  | _, [] => []
  | before, c :: cs =>
    (if c = 'Σ' then [if startsCased before && !startsCased cs then 'ς' else 'σ']
      else lowerChar c) ++ lowerAfter (c :: before) cs

def lowerCase (cs : List Char) : List Char := lowerAfter [] cs

def hasInfix (word : List Char) : List Char → Bool
  | [] => word.isEmpty
  | c :: cs => word.isPrefixOf (c :: cs) || hasInfix word cs

end Portrait.Text
