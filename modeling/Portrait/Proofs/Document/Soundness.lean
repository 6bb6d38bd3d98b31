import Portrait.Proofs.Document.Presentation
import Portrait.Proofs.Json.Soundness.Record

/-! What loads a model is a way to write it; any other text is refused. -/

namespace Portrait.Document

open Json

theorem layer_takes : List.Forall₂ (Field.Takes layerColumns) layer.fields layerColumns := by
  refine .cons ?id (.cons ?group (.cons ?name (.cons ?order (.cons ?path .nil))))
  case order => exact .of (by simp) int32_acceptsOnly (fun _ _ => rfl) (by simp [layerColumns])
  all_goals exact .of (by simp) string_acceptsOnly (fun _ _ => rfl) (by simp [layerColumns])

theorem metadata_takes :
    List.Forall₂ (Field.Takes metadataColumns) metadata.fields metadataColumns := by
  refine .cons ?name (.cons ?exportedAt (.cons ?author (.cons ?description .nil)))
  case name => exact .of (by simp) string_acceptsOnly (fun _ _ => rfl) (by simp [metadataColumns])
  all_goals
    exact .of (by simp) optionalString_acceptsOnly (fun _ _ => rfl) (by simp [metadataColumns])

theorem settings_takes :
    List.Forall₂ (Field.Takes settingsColumns) settings.fields settingsColumns := by
  refine .cons ?basePath .nil
  case basePath =>
    exact .of (by simp) string_acceptsOnly (fun _ _ => rfl) (by simp [settingsColumns])

theorem assets_takes : List.Forall₂ (Field.Takes assetsColumns) assets.fields assetsColumns := by
  have hlayers := list_acceptsOnly (layer_fits.acceptsOnly layer_takes)
  refine .cons ?layers .nil
  case layers => exact .of (by simp) hlayers (fun _ _ => rfl) (by simp [assetsColumns])

theorem controller_takes :
    List.Forall₂ (Field.Takes controllerColumns) controller.fields controllerColumns := by
  have hstrings := list_acceptsOnly string_acceptsOnly
  refine .cons ?baseLayers (.cons ?defaultPoses (.cons ?poses .nil))
  case poses =>
    exact .of (by simp) (map_acceptsOnly hstrings) (fun _ _ => rfl) (by simp [controllerColumns])
  all_goals exact .of (by simp) hstrings (fun _ _ => rfl) (by simp [controllerColumns])

theorem model_takes : List.Forall₂ (Field.Takes modelColumns) model.fields modelColumns := by
  have hmetadata := metadata_fits.acceptsOnly metadata_takes
  have hsettings := settings_fits.acceptsOnly settings_takes
  have hassets := assets_fits.acceptsOnly assets_takes
  have hcontroller := controller_fits.acceptsOnly controller_takes
  refine .cons ?version (.cons ?metadata (.cons ?settings (.cons ?assets (.cons ?controller .nil))))
  case version => exact .of (by simp) string_acceptsOnly (fun _ _ => rfl) (by simp [modelColumns])
  case metadata => exact .of (by simp) hmetadata (fun _ _ => rfl) (by simp [modelColumns])
  case settings => exact .of (by simp) hsettings (fun _ _ => rfl) (by simp [modelColumns])
  case assets => exact .of (by simp) hassets (fun _ _ => rfl) (by simp [modelColumns])
  case controller => exact .of (by simp) hcontroller (fun _ _ => rfl) (by simp [modelColumns])

theorem model_acceptsOnly : model.reader.AcceptsOnly ModelForm := model_fits.acceptsOnly model_takes

theorem exists_item_of_readAll {α : Type} {reader : Reader α} {F : Form α} (h : reader.AcceptsOnly F)
    {s : List Char} {a : α} (hs : readAll reader s = .ok a) :
    ∃ d : Item Value, d.text = s ∧ F d.value a := by
  unfold readAll at hs
  split at hs
  · cases hs
  · rename_i hrun
    split at hs
    · rename_i hend
      cases hs
      obtain ⟨before, value, rfl, hvalue⟩ := h hrun
      obtain ⟨after, rfl⟩ := exists_blanks hend
      exact ⟨{ before, value, after }, by simp [Item.text], hvalue⟩
    · cases hs

theorem readAll_ok_iff {s : List Char} {m : Model} :
    readAll model.reader s = .ok m ↔ ∃ d : Item Value, d.text = s ∧ ModelForm d.value m := by
  constructor
  · exact exists_item_of_readAll model_acceptsOnly
  · rintro ⟨d, rfl, hm⟩
    exact readAll_text model_reads hm

/-- A text loads a model just if it is one value, between blanks, that stands for the model: an object
that has each key of the record at most once or an array no longer than the record, in which only the
optional metadata may be `null`, an order is an integer of 32 bits, a layer has an id, a group and a
name, and of two poses with one name the last one counts.  Any other text is refused where it goes
wrong. -/
theorem ofText_ok_iff (text : String) :
    (∀ m, ofText text = .ok m ↔ ∃ d : Item Value, d.text = text.toList ∧ ModelForm d.value m) ∧
      ((∀ (d : Item Value) (m : Model), d.text = text.toList → ¬ ModelForm d.value m) →
        ∃ position cause, ofText text = .error (.parse position cause)) := by
  constructor
  · intro m
    rw [← readAll_ok_iff, ofText]
    cases readAll model.reader text.toList <;> simp
  · intro hnone
    cases hread : readAll model.reader text.toList with
    | ok m =>
      obtain ⟨d, hd, hm⟩ := readAll_ok_iff.mp hread
      exact absurd hm (hnone d m hd)
    | error f => exact ⟨f.position text.toList, f.cause, by rw [ofText, hread]⟩

end Portrait.Document
