import Portrait.Text.Utf8
import Portrait.Proofs.Text.ByteOrder

/-! UTF-8.  The bytes that are refused are those that encode no text, and a fault is where the first byte
stands that belongs to no character. -/

namespace Portrait.Text

def encode (cs : List Char) : List UInt8 := cs.flatMap String.utf8EncodeChar

def Due.Accepts (due : Due) : List UInt8 → Prop
  | [] => due.count = 0
  | b :: bs => 0 < due.count ∧ (due.low ≤ b ∧ b ≤ due.high) ∧ ({ count := due.count - 1 } : Due).Accepts bs

def Completes (b : UInt8) (tail : List UInt8) : Prop := ∃ due, Due.after? b = some due ∧ due.Accepts tail

/-! ### The bytes of one character -/

section Table

variable {b x y z : UInt8} {tail : List UInt8}

theorem Due.Accepts.length_eq {due : Due} (h : due.Accepts tail) : tail.length = due.count := by
  induction tail generalizing due with
  | nil => exact h.symm
  | cons x tail ih =>
    obtain ⟨hpos, -, hrest⟩ := h
    rw [List.length_cons, ih hrest, Nat.sub_add_cancel hpos]

theorem exists_after?_iff {P : Due → Prop} : (∃ due, Due.after? b = some due ∧ P due) ↔
    b.toNat < 0x80 ∧ P { count := 0 } ∨
    (0xC2 ≤ b.toNat ∧ b.toNat < 0xE0) ∧ P { count := 1 } ∨
    b.toNat = 0xE0 ∧ P { count := 2, low := 0xA0 } ∨
    (0xE1 ≤ b.toNat ∧ b.toNat < 0xF0 ∧ b.toNat ≠ 0xED) ∧ P { count := 2 } ∨
    b.toNat = 0xED ∧ P { count := 2, high := 0x9F } ∨
    b.toNat = 0xF0 ∧ P { count := 3, low := 0x90 } ∨
    (0xF1 ≤ b.toNat ∧ b.toNat < 0xF4) ∧ P { count := 3 } ∨
    b.toNat = 0xF4 ∧ P { count := 3, high := 0x8F } := by
  simp only [Due.after?, UInt8.lt_iff_toNat_lt, ← UInt8.toNat_inj, UInt8.reduceToNat]
  split_ifs <;> grind

theorem Due.bounds_of_after? {due : Due} (h : after? b = some due) : due.count ≤ 3 ∧ due.low ≤ due.high := by
  rw [after?] at h
  split_ifs at h <;> cases h <;> decide

theorem length_of_completes (h : Completes b tail) : tail.length ≤ 3 := by
  obtain ⟨due, hdue, haccepts⟩ := h
  rw [haccepts.length_eq]
  exact (Due.bounds_of_after? hdue).1

theorem completes_one : Completes b [] ↔ b.toNat < 0x80 := by
  simp [Completes, exists_after?_iff, Due.Accepts]

theorem completes_two : Completes b [x] ↔ (0xC2 ≤ b.toNat ∧ b.toNat < 0xE0) ∧
    (0x80 ≤ x.toNat ∧ x.toNat < 0xC0) := by
  simp [Completes, exists_after?_iff, Due.Accepts, UInt8.le_iff_toNat_le]
  omega

theorem completes_three : Completes b [x, y] ↔ (0xE0 ≤ b.toNat ∧ b.toNat < 0xF0) ∧
    (0x80 ≤ x.toNat ∧ x.toNat < 0xC0) ∧ (0x80 ≤ y.toNat ∧ y.toNat < 0xC0) ∧
    (b.toNat = 0xE0 → 0xA0 ≤ x.toNat) ∧ (b.toNat = 0xED → x.toNat < 0xA0) := by
  simp [Completes, exists_after?_iff, Due.Accepts, UInt8.le_iff_toNat_le]
  omega

theorem completes_four : Completes b [x, y, z] ↔ (0xF0 ≤ b.toNat ∧ b.toNat < 0xF5) ∧
    (0x80 ≤ x.toNat ∧ x.toNat < 0xC0) ∧ (0x80 ≤ y.toNat ∧ y.toNat < 0xC0) ∧
    (0x80 ≤ z.toNat ∧ z.toNat < 0xC0) ∧
    (b.toNat = 0xF0 → 0x90 ≤ x.toNat) ∧ (b.toNat = 0xF4 → x.toNat < 0x90) := by
  simp [Completes, exists_after?_iff, Due.Accepts, UInt8.le_iff_toNat_le]
  omega

theorem exists_char {v : Nat} (h : v < 0xD800 ∨ 0xDFFF < v ∧ v < 0x110000) : ∃ c : Char, c.val.toNat = v :=
  ⟨Char.ofNatAux v h, UInt32.toNat_ofNatLT ..⟩

theorem ofNat_eq {n : Nat} (h : n = b.toNat) : UInt8.ofNat n = b := by rw [h, UInt8.ofNat_toNat]

theorem completes_of_encode {c : Char} (h : String.utf8EncodeChar c = b :: tail) : Completes b tail := by
  have hvalid : c.val.toNat < 0xD800 ∨ 0xDFFF < c.val.toNat ∧ c.val.toNat < 0x110000 := c.valid
  rw [String.utf8EncodeChar] at h
  split_ifs at h with h1 h2 h3 <;> obtain ⟨rfl, rfl⟩ := List.cons.inj h
  · rw [completes_one, UInt8.toNat_ofNat']
    omega
  · rw [completes_two]
    simp only [UInt8.toNat_ofNat']
    omega
  · rw [completes_three]
    simp only [UInt8.toNat_ofNat']
    omega
  · rw [completes_four]
    simp only [UInt8.toNat_ofNat']
    omega

theorem exists_encode_of_completes (h : Completes b tail) : ∃ c, String.utf8EncodeChar c = b :: tail := by
  match tail, length_of_completes h with
  | [], _ =>
    rw [completes_one] at h
    obtain ⟨c, hc⟩ := exists_char (v := b.toNat) (by omega)
    refine ⟨c, ?_⟩
    rw [String.utf8EncodeChar, hc, if_pos (by omega), ofNat_eq rfl]
  | [x], _ =>
    rw [completes_two] at h
    obtain ⟨c, hc⟩ := exists_char (v := (b.toNat - 0xC0) * 64 + (x.toNat - 0x80)) (by omega)
    refine ⟨c, ?_⟩
    rw [String.utf8EncodeChar, hc, if_neg (by omega), if_pos (by omega), ofNat_eq (b := b) (by omega),
      ofNat_eq (b := x) (by omega)]
  | [x, y], _ =>
    rw [completes_three] at h
    obtain ⟨c, hc⟩ := exists_char
      (v := (b.toNat - 0xE0) * 4096 + (x.toNat - 0x80) * 64 + (y.toNat - 0x80)) (by omega)
    refine ⟨c, ?_⟩
    rw [String.utf8EncodeChar, hc, if_neg (by omega), if_neg (by omega), if_pos (by omega),
      ofNat_eq (b := b) (by omega), ofNat_eq (b := x) (by omega), ofNat_eq (b := y) (by omega)]
  | [x, y, z], _ =>
    rw [completes_four] at h
    obtain ⟨c, hc⟩ := exists_char (v := (b.toNat - 0xF0) * 262144 + (x.toNat - 0x80) * 4096 +
      (y.toNat - 0x80) * 64 + (z.toNat - 0x80)) (by omega)
    refine ⟨c, ?_⟩
    rw [String.utf8EncodeChar, hc, if_neg (by omega), if_neg (by omega), if_neg (by omega),
      ofNat_eq (b := b) (by omega), ofNat_eq (b := x) (by omega), ofNat_eq (b := y) (by omega),
      ofNat_eq (b := z) (by omega)]

end Table

theorem exists_encode_iff {b : UInt8} {tail : List UInt8} :
    (∃ c, String.utf8EncodeChar c = b :: tail) ↔ Completes b tail :=
  ⟨fun ⟨_, h⟩ => completes_of_encode h, exists_encode_of_completes⟩

/-! ### What stands before a fault and at it -/

def Begins (bytes : List UInt8) : Prop := ∃ c tail, String.utf8EncodeChar c = bytes ++ tail

def Unfinished (bytes : List UInt8) : Prop := ∃ c tail, tail ≠ [] ∧ String.utf8EncodeChar c = bytes ++ tail

/-- After some characters the bytes either end within a character, or go on with bytes with which no
character begins.  These are as many as begin one, or the first byte alone. -/
inductive Utf8Fault.Describes : Utf8Fault → List UInt8 → Prop
  | incomplete {cs : List Char} {bytes : List UInt8} : bytes ≠ [] → Unfinished bytes →
      Describes ⟨(encode cs).length, none⟩ (encode cs ++ bytes)
  | refused {cs : List Char} {bytes : List UInt8} {b : UInt8} {rest : List UInt8} : Unfinished bytes →
      ¬ Begins (bytes ++ [b]) →
      Describes ⟨(encode cs).length, some (max 1 bytes.length)⟩ (encode cs ++ bytes ++ b :: rest)

def Explains (bytes : List UInt8) : Option Utf8Fault → Prop
  | none => ∃ cs, bytes = encode cs
  | some fault => fault.Describes bytes

structure Owes (bytes : List UInt8) (due : Due) : Prop where
  ne_nil : bytes ≠ []
  unfinished : Unfinished bytes
  pos : 0 < due.count
  accepts_iff : ∀ tail, (∃ c, String.utf8EncodeChar c = bytes ++ tail) ↔ due.Accepts tail

theorem accepts_replicate (n : Nat) : ({ count := n } : Due).Accepts (List.replicate n 0x80) := by
  induction n with
  | zero => rfl
  | succ n ih =>
    have hrange : (0x80 : UInt8) ≤ 0x80 ∧ (0x80 : UInt8) ≤ 0xBF := by decide
    exact ⟨Nat.succ_pos n, hrange, ih⟩

theorem unfinished_nil : Unfinished [] := ⟨'a', [0x61], List.cons_ne_nil _ _, by decide⟩

theorem owes_first {b : UInt8} {due : Due} (h : Due.after? b = some due) (hpos : 0 < due.count) :
    Owes [b] due := by
  have hiff (tail : List UInt8) : (∃ c, String.utf8EncodeChar c = [b] ++ tail) ↔ due.Accepts tail := by
    rw [List.singleton_append, exists_encode_iff, Completes, h]
    simp
  have hlow : due.low ≤ due.low ∧ due.low ≤ due.high := ⟨UInt8.le_refl _, (Due.bounds_of_after? h).2⟩
  obtain ⟨c, hc⟩ := (hiff (due.low :: .replicate (due.count - 1) 0x80)).mpr
    ⟨hpos, hlow, accepts_replicate _⟩
  exact ⟨List.cons_ne_nil _ _, ⟨c, _, List.cons_ne_nil _ _, hc⟩, hpos, hiff⟩

theorem Owes.next {bytes : List UInt8} {b : UInt8} {due : Due} (h : Owes bytes due)
    (hb : due.low ≤ b ∧ b ≤ due.high) (hpos : 0 < due.count - 1) :
    Owes (bytes ++ [b]) { count := due.count - 1 } := by
  have hiff (tail : List UInt8) : (∃ c, String.utf8EncodeChar c = bytes ++ [b] ++ tail) ↔
      ({ count := due.count - 1 } : Due).Accepts tail := by
    rw [List.append_assoc, List.singleton_append, h.accepts_iff]
    exact ⟨fun haccepts => haccepts.2.2, fun haccepts => ⟨h.pos, hb, haccepts⟩⟩
  obtain ⟨c, hc⟩ := (hiff (.replicate (due.count - 1) 0x80)).mpr (accepts_replicate _)
  refine ⟨by simp, ⟨c, _, ?_, hc⟩, hpos, hiff⟩
  exact fun hnil => Nat.ne_of_gt hpos (List.replicate_eq_nil_iff _ |>.mp hnil)

theorem encode_cons (c : Char) (cs : List Char) :
    encode (c :: cs) = String.utf8EncodeChar c ++ encode cs :=
  List.flatMap_cons

theorem encode_append_singleton (cs : List Char) (c : Char) :
    encode (cs ++ [c]) = encode cs ++ String.utf8EncodeChar c := by
  rw [encode, List.flatMap_append, List.flatMap_singleton]
  rfl

def SoundOn (bytes : List UInt8) : Prop :=
  ∀ (cs : List Char) (seen : List UInt8) (due : Due), seen = [] ∨ Owes seen due →
    Explains (encode cs ++ seen ++ bytes) (findFault (encode cs).length seen.length due bytes)

namespace SoundOn

variable {bytes : List UInt8} {cs : List Char} {seen : List UInt8} {due : Due} {b : UInt8}

theorem nil : SoundOn [] := by
  rintro cs seen due (rfl | h)
  · exact ⟨cs, by simp⟩
  · rw [findFault, if_neg (by simpa using h.ne_nil), List.append_nil]
    exact .incomplete h.ne_nil h.unfinished

theorem finish (hsound : SoundOn bytes) {c : Char} (hc : String.utf8EncodeChar c = seen ++ [b]) (due : Due) :
    Explains (encode cs ++ seen ++ b :: bytes)
      (findFault ((encode cs).length + seen.length + 1) 0 due bytes) := by
  have hnext := hsound (cs ++ [c]) [] due (.inl rfl)
  rw [encode_append_singleton, hc] at hnext
  simpa [Nat.add_assoc] using hnext

theorem goOn (hsound : SoundOn bytes) (howes : Owes (seen ++ [b]) due) :
    Explains (encode cs ++ seen ++ b :: bytes)
      (findFault (encode cs).length (seen.length + 1) due bytes) := by
  simpa using hsound cs _ due (.inr howes)

theorem first (hsound : SoundOn bytes) (cs : List Char) (due : Due) (b : UInt8) :
    Explains (encode cs ++ [] ++ b :: bytes) (findFault (encode cs).length 0 due (b :: bytes)) := by
  rw [findFault, if_pos rfl]
  cases hdue : Due.after? b with
  | none =>
    refine .refused unfinished_nil ?_
    rintro ⟨c, tail, hc⟩
    obtain ⟨due, hdue', -⟩ := completes_of_encode hc
    rw [hdue] at hdue'
    cases hdue'
  | some due =>
    by_cases hcount : due.count = 0
    · have haccepts : due.Accepts [] := hcount
      obtain ⟨c, hc⟩ := exists_encode_of_completes ⟨due, hdue, haccepts⟩
      rw [← List.nil_append [b]] at hc
      simpa [hcount] using hsound.finish hc due
    · have howes : Owes ([] ++ [b]) due := owes_first hdue (Nat.pos_of_ne_zero hcount)
      simpa [hcount] using hsound.goOn howes

theorem later (hsound : SoundOn bytes) (cs : List Char) (h : Owes seen due) (b : UInt8) :
    Explains (encode cs ++ seen ++ b :: bytes)
      (findFault (encode cs).length seen.length due (b :: bytes)) := by
  have hseen : seen.length ≠ 0 := by simpa using h.ne_nil
  rw [findFault, if_neg hseen]
  by_cases hb : due.low ≤ b ∧ b ≤ due.high
  · rw [if_pos hb]
    by_cases hcount : due.count = 1
    · obtain ⟨c, hc⟩ := (h.accepts_iff [b]).mpr ⟨h.pos, hb, by simp [Due.Accepts, hcount]⟩
      rw [if_pos hcount]
      exact hsound.finish hc due
    · rw [if_neg hcount]
      exact hsound.goOn (h.next hb (Nat.sub_pos_of_lt (Nat.lt_of_le_of_ne h.pos (Ne.symm hcount))))
  · have hmax : max 1 seen.length = seen.length := Nat.max_eq_right (Nat.pos_of_ne_zero hseen)
    rw [if_neg hb, ← hmax]
    refine .refused h.unfinished ?_
    rintro ⟨c, tail, hc⟩
    rw [List.append_assoc, List.singleton_append] at hc
    exact hb ((h.accepts_iff _).mp ⟨c, hc⟩).2.1

theorem all (bytes : List UInt8) : SoundOn bytes := by
  induction bytes with
  | nil => exact nil
  | cons b bytes ih =>
    rintro cs seen due (rfl | h)
    · exact ih.first cs due b
    · exact ih.later cs h b

end SoundOn

theorem explains_findFault (due : Due) (bytes : List UInt8) : Explains bytes (findFault 0 0 due bytes) :=
  SoundOn.all bytes [] [] due (.inl rfl)

theorem exists_of_findFault {due : Due} {bytes : List UInt8} (h : findFault 0 0 due bytes = none) :
    ∃ cs, bytes = encode cs := by
  have hexplains := explains_findFault due bytes
  rwa [h] at hexplains

theorem describes_of_findFault {due : Due} {bytes : List UInt8} {fault : Utf8Fault}
    (h : findFault 0 0 due bytes = some fault) : fault.Describes bytes := by
  have hexplains := explains_findFault due bytes
  rwa [h] at hexplains

/-! ### Where bytes are divided -/

theorem utf8EncodeChar_append_inj {c d : Char} {x y : List UInt8}
    (h : String.utf8EncodeChar c ++ x = String.utf8EncodeChar d ++ y) : c = d ∧ x = y := by
  obtain hlt | rfl | hlt := lt_trichotomy c d
  · exact absurd (h ▸ utf8EncodeChar_append_lt hlt x y) (List.lt_irrefl _)
  · exact ⟨rfl, List.append_cancel_left h⟩
  · exact absurd (h ▸ utf8EncodeChar_append_lt hlt y x) (List.lt_irrefl _)

theorem not_unfinished_append (c : Char) (tail : List UInt8) :
    ¬ Unfinished (String.utf8EncodeChar c ++ tail) := by
  rintro ⟨d, rest, hne, hd⟩
  rw [List.append_assoc, ← List.append_nil (String.utf8EncodeChar d)] at hd
  exact hne (List.append_eq_nil_iff.mp (utf8EncodeChar_append_inj hd).2.symm).2

theorem exists_of_encode_append_eq {cs ds : List Char} {bytes : List UInt8}
    (h : encode cs ++ bytes = encode ds) : ∃ es, bytes = encode es := by
  induction cs generalizing ds with
  | nil => exact ⟨ds, h⟩
  | cons c cs ih =>
    rw [encode_cons, List.append_assoc] at h
    cases ds with
    | nil => exact absurd (List.append_eq_nil_iff.mp h).1 String.utf8EncodeChar_ne_nil
    | cons d ds => exact ih (utf8EncodeChar_append_inj (h.trans (encode_cons d ds))).2

theorem Utf8Fault.Describes.ne_encode {fault : Utf8Fault} {bytes : List UInt8} (h : fault.Describes bytes)
    (cs : List Char) : bytes ≠ encode cs := by
  intro hall
  cases h with
  | incomplete hne hunfinished =>
    obtain ⟨ds, rfl⟩ := exists_of_encode_append_eq hall
    cases ds with
    | nil => exact hne rfl
    | cons d ds => exact not_unfinished_append d (encode ds) hunfinished
  | refused hunfinished hbegins =>
    rw [List.append_assoc] at hall
    obtain ⟨ds, hds⟩ := exists_of_encode_append_eq hall
    cases ds with
    | nil => exact List.append_ne_nil_of_right_ne_nil _ (List.cons_ne_nil _ _) hds
    | cons d ds =>
      -- the fault is at a byte of the first character that is left, or behind it
      rw [encode_cons] at hds
      obtain ⟨_ | ⟨b, tail⟩, hd, hrest⟩ | ⟨tail, rfl, -⟩ := List.append_eq_append_iff.mp hds
      · rw [List.append_nil] at hd
        refine not_unfinished_append d [] ?_
        rwa [List.append_nil, hd]
      · cases hrest
        exact hbegins ⟨d, tail, by rw [hd, ← List.append_cons]⟩
      · exact not_unfinished_append d tail hunfinished

theorem findFault_eq_none_iff (due : Due) {bytes : List UInt8} :
    findFault 0 0 due bytes = none ↔ ∃ cs, bytes = encode cs := by
  refine ⟨exists_of_findFault, ?_⟩
  rintro ⟨cs, hcs⟩
  cases hfault : findFault 0 0 due bytes with
  | none => rfl
  | some fault => exact absurd hcs ((describes_of_findFault hfault).ne_encode cs)

/-! ### Bytes and texts -/

theorem byteArray_toList_loop (bytes : ByteArray) (i : Nat) (r : List UInt8) :
    ByteArray.toList.loop bytes i r = r.reverse ++ bytes.data.toList.drop i := by
  fun_induction ByteArray.toList.loop bytes i r with
  | case1 i r h ih =>
    have hi : i < bytes.data.toList.length := by simpa using h
    have hget : bytes.get! i = bytes.data.toList[i] := by
      rw [Array.getElem_toList]
      exact getElem!_pos bytes.data i h
    rw [ih, hget, List.drop_eq_getElem_cons hi]
    simp
  | case2 i r h =>
    have hi : bytes.data.toList.length ≤ i := by simpa using h
    rw [List.drop_of_length_le hi, List.append_nil]

theorem byteArray_toList (bytes : ByteArray) : bytes.toList = bytes.data.toList := by
  rw [ByteArray.toList, byteArray_toList_loop, List.reverse_nil, List.nil_append, List.drop_zero]

def Encodes (bytes : ByteArray) (s : String) : Prop := bytes.data.toList = encode s.toList

theorem encodes_iff {bytes : ByteArray} {s : String} : Encodes bytes s ↔ bytes = s.toUTF8 := by
  rw [Encodes, encode, ← utf8_eq, utf8]
  exact ⟨fun h => ByteArray.ext (Array.toList_inj.mp h), fun h => by rw [h]⟩

theorem decode_toUTF8 (s : String) : decode s.toUTF8 = .ok s := by
  have hs : String.fromUTF8? s.toUTF8 = some s := dif_pos s.isValidUTF8
  rw [decode, hs]

theorem decode_eq_ok_iff {bytes : ByteArray} {s : String} : decode bytes = .ok s ↔ Encodes bytes s := by
  rw [encodes_iff]
  refine ⟨fun h => ?_, fun h => h ▸ decode_toUTF8 s⟩
  rw [decode, String.fromUTF8?] at h
  split_ifs at h with hvalid
  cases h
  rfl

theorem exists_encodes_iff {bytes : ByteArray} :
    (∃ s, Encodes bytes s) ↔ ∃ cs, bytes.data.toList = encode cs :=
  ⟨fun ⟨s, h⟩ => ⟨s.toList, h⟩, fun ⟨cs, h⟩ => ⟨.ofList cs, by rwa [Encodes, String.toList_ofList]⟩⟩

theorem decode_eq_error {bytes : ByteArray} (h : ¬ ∃ s, Encodes bytes s) :
    ∃ fault : Utf8Fault, fault.Describes bytes.data.toList ∧ decode bytes = .error fault := by
  have hnone : String.fromUTF8? bytes = none := by
    cases hs : String.fromUTF8? bytes with
    | none => rfl
    | some s => exact absurd ⟨s, decode_eq_ok_iff.mp (by rw [decode, hs])⟩ h
  cases hfault : findFault 0 0 { count := 0 } bytes.data.toList with
  | none => exact absurd (exists_encodes_iff.mpr (exists_of_findFault hfault)) h
  | some fault =>
    refine ⟨fault, describes_of_findFault hfault, ?_⟩
    rw [decode, hnone, byteArray_toList, hfault, Option.getD_some]

end Portrait.Text
