import Portrait.Json.Printer
import Portrait.Json.Skip

/-! JSON as it is written: values with the blanks between their tokens, the spelling of their strings and
the digits of their numbers.  The texts of the grammar are the texts of these values. -/

namespace Portrait.Json

structure Blanks where
  text : List Char
  blank : ∀ c ∈ text, isBlank c = true

instance : EmptyCollection Blanks := ⟨⟨[], List.forall_mem_nil _⟩⟩

@[simp] theorem Blanks.text_empty : (∅ : Blanks).text = [] := rfl

structure CodeUnit where
  (a b c d : Char)
  value : Nat
  number_eq : hexNumber? [a, b, c, d] = some value

def CodeUnit.text (u : CodeUnit) : List Char := ['\\', 'u', u.a, u.b, u.c, u.d]

inductive Glyph
  | plain (c : Char) (h : c ≠ '"' ∧ c ≠ '\\' ∧ 0x20 ≤ c.toNat)
  | short (letter c : Char) (h : shortEscape? letter = some c)
  | numbered (u : CodeUnit)
  | pair (leading trailing : CodeUnit) (h : isLeading leading.value ∧ isTrailing trailing.value)

namespace Glyph

def text : Glyph → List Char
  | .plain c _ => [c]
  | .short letter _ _ => ['\\', letter]
  | .numbered u => u.text
  | .pair leading trailing _ => leading.text ++ trailing.text

def char? : Glyph → Option Char
  | .plain c _ => some c
  | .short _ c _ => some c
  | .numbered u =>
    if isLeading u.value || isTrailing u.value then none else some (Char.ofNat u.value)
  | .pair leading trailing _ => some (surrogatePair leading.value trailing.value)

end Glyph

abbrev Spelling := List Glyph

namespace Spelling

def tail (w : Spelling) : List Char := w.flatMap Glyph.text ++ ['"']

def text (w : Spelling) : List Char := '"' :: w.tail

def Spells (w : Spelling) (s : String) : Prop := w.map Glyph.char? = s.toList.map some

instance (w : Spelling) (s : String) : Decidable (w.Spells s) :=
  inferInstanceAs (Decidable (_ = _))

end Spelling

structure Digits where
  chars : List Char
  ne_nil : chars ≠ []
  digit : ∀ c ∈ chars, c.isDigit = true

structure Power where
  upper : Bool
  negative? : Option Bool
  digits : Digits

namespace Power

def negative (p : Power) : Bool := p.negative?.getD false

def signText (p : Power) : List Char := match p.negative? with
  | none => []
  | some false => ['+']
  | some true => ['-']

def text (p : Power) : List Char := (if p.upper then 'E' else 'e') :: (p.signText ++ p.digits.chars)

end Power

structure NumberText where
  negative : Bool := false
  whole : Digits
  zero : whole.chars.head? = some '0' → whole.chars = ['0']
  fraction : Option Digits := none
  power : Option Power := none

namespace NumberText

def fractionText (n : NumberText) : List Char := n.fraction.elim [] fun ds => '.' :: ds.chars

def powerText (n : NumberText) : List Char := n.power.elim [] Power.text

def text (n : NumberText) : List Char :=
  (if n.negative then ['-'] else []) ++ (n.whole.chars ++ (n.fractionText ++ n.powerText))

def integer? (n : NumberText) : Option Int :=
  let i := Nat.ofDigitChars 10 n.whole.chars 0
  if n.fraction.isSome || n.power.isSome then none
  else if !n.negative then some i
  else if i = 0 then none
  else some (-i)

end NumberText

structure Item (ν : Type) where
  before : Blanks := ∅
  value : ν
  after : Blanks := ∅

structure Member (ν : Type) extends Item ν where
  beforeKey : Blanks := ∅
  key : Spelling
  afterKey : Blanks := ∅

/-- The last blanks of an array or object stand before its closing bracket. -/
inductive Value
  | null
  | boolean (b : Bool)
  | number (n : NumberText)
  | string (w : Spelling)
  | array (items : List (Item Value)) (last : Blanks)
  | object (members : List (Member Value)) (last : Blanks)

def separator (first : Bool) : List Char := if first then [] else [',']

mutual
def Value.text : Value → List Char
  | .null => ['n', 'u', 'l', 'l']
  | .boolean b => printBool b
  | .number n => n.text
  | .string w => w.text
  | .array items last => '[' :: Value.itemsText true items last
  | .object members last => '\x7b' :: Value.membersText true members last
def Value.itemsText (first : Bool) : List (Item Value) → Blanks → List Char
  | [], last => last.text ++ [']']
  | i :: items, last =>
    separator first ++ (i.before.text ++ (i.value.text ++ (i.after.text ++
      Value.itemsText false items last)))
def Value.membersText (first : Bool) : List (Member Value) → Blanks → List Char
  | [], last => last.text ++ ['\x7d']
  | m :: members, last =>
    separator first ++ (m.beforeKey.text ++ (m.key.text ++ (m.afterKey.text ++ ':' ::
      (m.before.text ++ (m.value.text ++ (m.after.text ++ Value.membersText false members last))))))
end

def Item.text (d : Item Value) : List Char := d.before.text ++ (d.value.text ++ d.after.text)

def Delimited (s : List Char) : Prop :=
  ∀ c ∈ s.head?, isBlank c = true ∨ c = ',' ∨ c = ']' ∨ c = '\x7d'

theorem delimited_nil : Delimited [] := by simp [Delimited]

theorem Delimited.blanks (b : Blanks) {s : List Char} (h : Delimited s) : Delimited (b.text ++ s) := by
  intro c hc
  cases hb : b.text with
  | nil => exact h c (by simpa [hb] using hc)
  | cons d ds =>
    have hd : d = c := by simpa [hb] using hc
    exact .inl (b.blank c (by simp [hb, hd]))

namespace Value

theorem delimited_itemsText (items : List (Item Value)) (last : Blanks) (rest : List Char) :
    Delimited (itemsText false items last ++ rest) := by
  cases items with
  | nil =>
    rw [itemsText, List.append_assoc]
    exact .blanks last (by simp [Delimited])
  | cons i items => simp [itemsText, separator, Delimited]

theorem delimited_membersText (members : List (Member Value)) (last : Blanks) (rest : List Char) :
    Delimited (membersText false members last ++ rest) := by
  cases members with
  | nil =>
    rw [membersText, List.append_assoc]
    exact .blanks last (by simp [Delimited])
  | cons m members => simp [membersText, separator, Delimited]

end Value

end Portrait.Json
