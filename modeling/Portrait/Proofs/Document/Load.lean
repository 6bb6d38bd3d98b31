import Portrait.Disk.Tree
import Portrait.Document.Load
import Portrait.Proofs.Text.Utf8

/-! A model is loaded from bytes and from a file as it is from their text.  If they are of no text, no part of
them is read. -/

namespace Portrait.Document

section Bytes

variable {path s : String} {bytes : ByteArray} {e : LoadError}

theorem ofBytes_of_encodes (h : Text.Encodes bytes s) : ofBytes bytes = ofText s := by
  rw [ofBytes, Text.decode_eq_ok_iff.mpr h]

theorem ofFile_of_encodes (h : Text.Encodes bytes s) : ofFile path (.ok bytes) = ofText s := by
  rw [ofFile, Text.decode_eq_ok_iff.mpr h]

theorem ofBytes_of_not_encodes (path : String) (h : ¬ ∃ s, Text.Encodes bytes s) :
    (∃ fault : Text.Utf8Fault, fault.Describes bytes.data.toList ∧ ofBytes bytes = .error (.notUtf8 fault)) ∧
      ofFile path (.ok bytes) = .error (.read path .notText) := by
  obtain ⟨fault, hfault, hdecode⟩ := Text.decode_eq_error h
  exact ⟨⟨fault, hfault, by rw [ofBytes, hdecode]⟩, by rw [ofFile, hdecode]⟩

theorem isParse_of_ofText (h : ofText s = .error e) : ∃ position cause, e = .parse position cause := by
  rw [ofText] at h
  split at h
  case h_1 => cases h
  case h_2 f _ => exact ⟨_, _, (Except.error.inj h).symm⟩

theorem isParse_iff (h : ofBytes bytes = .error e) :
    (∃ position cause, e = .parse position cause) ↔ ∃ s, Text.Encodes bytes s := by
  by_cases hs : ∃ s, Text.Encodes bytes s
  · obtain ⟨s, hs⟩ := hs
    rw [ofBytes_of_encodes hs] at h
    exact iff_of_true (isParse_of_ofText h) ⟨s, hs⟩
  · obtain ⟨⟨fault, -, hfault⟩, -⟩ := ofBytes_of_not_encodes "" hs
    refine iff_of_false ?_ hs
    rintro ⟨position, cause, rfl⟩
    rw [hfault] at h
    cases h

end Bytes

section Disk

variable {m : Type → Type} [Monad m] [LawfulMonad m] {disk : Disk m} {path : String} {bytes : ByteArray}
  (act : m Unit)

theorem load_eq (h : disk.read path = do act; return .ok bytes) :
    load disk path = do act; return ofFile path (.ok bytes) := by
  simp [load, h]

theorem fst_loadChecked (disk : Disk m) (path : String) :
    (·.1) <$> loadChecked disk path = load disk path := by
  simp [loadChecked]

/-- Whatever else is done to read a file, a model is loaded from it and from its bytes as from their text.
Bytes of no text are refused for a fault that they have, and the file as one that cannot be read, so that
malformed text before the fault is not an error.  The diagnostics change nothing of this. -/
theorem load_like_text (h : disk.read path = do act; return .ok bytes) :
    (∀ s, Text.Encodes bytes s →
      ofBytes bytes = ofText s ∧ load disk path = do act; return ofText s) ∧
    ((¬ ∃ s, Text.Encodes bytes s) →
      (∃ fault : Text.Utf8Fault, fault.Describes bytes.data.toList ∧
        ofBytes bytes = .error (.notUtf8 fault)) ∧
      load disk path = do act; return .error (.read path .notText)) ∧
    (∀ e, ofBytes bytes = .error e →
      ((∃ position cause, e = .parse position cause) ↔ ∃ s, Text.Encodes bytes s)) ∧
    (·.1) <$> loadChecked disk path = load disk path := by
  refine ⟨fun s hs => ⟨ofBytes_of_encodes hs, ?text⟩, fun hnone => ?none, fun e => isParse_iff,
    fst_loadChecked disk path⟩
  case text => rw [load_eq act h, ofFile_of_encodes hs]
  case none =>
    obtain ⟨hbytes, hfile⟩ := ofBytes_of_not_encodes path hnone
    exact ⟨hbytes, by rw [load_eq act h, hfile]⟩

def garbled : ByteArray := ⟨#[0x7B, 0x5D, 0xED, 0xA0, 0x80]⟩

def garbledTree : Tree := { files := [(["m"], garbled)] }

theorem not_encodes_garbled : ¬ ∃ s, Text.Encodes garbled s := by
  rw [Text.exists_encodes_iff, ← Text.findFault_eq_none_iff { count := 0 }]
  decide

theorem read_garbled : garbledTree.read "m" = .ok garbled := by cbv

theorem load_garbled :
    (∃ fault : Text.Utf8Fault, fault.Describes garbled.data.toList ∧
      ofBytes garbled = .error (.notUtf8 fault)) ∧
    load garbledTree.disk "m" = .error (.read "m" .notText) :=
  (load_like_text (pure ()) read_garbled).2.1 not_encodes_garbled

end Disk

end Portrait.Document
