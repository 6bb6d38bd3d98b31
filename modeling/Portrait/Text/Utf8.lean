/-! Bytes as text: where and how a sequence of bytes fails to be UTF-8. -/

namespace Portrait.Text

/-- The first byte that belongs to no character, and the number of bytes that the refused sequence
has; no number if the bytes end within a character. -/
structure Utf8Fault where
  index : Nat
  length : Option Nat
  deriving DecidableEq

instance : ToString Utf8Fault where
  toString f := match f.length with
    | some n => "invalid utf-8 sequence of " ++ toString n ++ " bytes from index " ++ toString f.index
    | none => "incomplete utf-8 byte sequence from index " ++ toString f.index

structure Due where
  count : Nat
  low : UInt8 := 0x80
  high : UInt8 := 0xBF

def Due.after? (b : UInt8) : Option Due :=
  if b < 0x80 then some { count := 0 }
  else if b < 0xC2 then none
  else if b < 0xE0 then some { count := 1 }
  else if b = 0xE0 then some { count := 2, low := 0xA0 }
  else if b = 0xED then some { count := 2, high := 0x9F }
  else if b < 0xF0 then some { count := 2 }
  else if b = 0xF0 then some { count := 3, low := 0x90 }
  else if b < 0xF4 then some { count := 3 }
  else if b = 0xF4 then some { count := 3, high := 0x8F }
  else none

def findFault (start seen : Nat) (due : Due) : List UInt8 → Option Utf8Fault
  | [] => if seen = 0 then none else some ⟨start, none⟩
  | b :: bs =>
    if seen = 0 then match Due.after? b with
      | none => some ⟨start, some 1⟩
      | some due =>
        if due.count = 0 then findFault (start + 1) 0 due bs else findFault start 1 due bs
    else if due.low ≤ b ∧ b ≤ due.high then
      if due.count = 1 then findFault (start + seen + 1) 0 due bs
      else findFault start (seen + 1) { count := due.count - 1 } bs
    else some ⟨start, some seen⟩

def decode (bytes : ByteArray) : Except Utf8Fault String := match String.fromUTF8? bytes with
  | some s => .ok s
  | none => .error ((findFault 0 0 { count := 0 } bytes.toList).getD ⟨bytes.size, none⟩)

end Portrait.Text
