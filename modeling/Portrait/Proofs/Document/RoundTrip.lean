import Portrait.Document.Print
import Portrait.Proofs.Document.Presentation
import Portrait.Proofs.Json.Printer
import Portrait.Proofs.Text.Utf8

/-! A printed model is read back. -/

namespace Portrait.Document

open Json

theorem strings_prints : Prints printStrings (ListForm TextForm) := list_prints string_prints

theorem layer_prints : Prints printLayer (RecordForm layerColumns) := by
  intro l
  choose text htext hform using string_prints
  obtain ⟨order, horder, hint⟩ := int32_prints l.order
  obtain ⟨v, hv, hl⟩ := record_printed layerColumns l
    [("id", text l.id), ("group", text l.group), ("name", text l.name), ("order", order),
      ("path", text l.path)]
    (by simp [layerColumns, Column.Keyed, hform, hint])
  exact ⟨v, by simpa [printLayer, htext, horder] using hv, hl⟩

theorem metadata_prints : Prints printMetadata (RecordForm metadataColumns) := by
  intro m
  choose text htext hform using string_prints
  let optional (key : String) (x : Option String) : List (String × Value) :=
    x.toList.map fun s => (key, text s)
  obtain ⟨v, hv, hm⟩ := record_printed metadataColumns m
    ([("name", text m.name)] ++ optional "exportedAt" m.exportedAt ++ optional "author" m.author ++
      optional "description" m.description)
    (by
      rcases m with ⟨name, _ | exportedAt, _ | author, _ | description⟩ <;>
        simp [metadataColumns, Column.Keyed, optional, hform, OptionalForm.some])
  exact ⟨v, by simpa [printMetadata, printOptional, htext, optional, Function.comp_def] using hv, hm⟩

theorem settings_prints : Prints printSettings (RecordForm settingsColumns) := by
  intro s
  obtain ⟨basePath, htext, hform⟩ := string_prints s.basePath
  obtain ⟨v, hv, hs⟩ := record_printed settingsColumns s [("basePath", basePath)]
    (by simp [settingsColumns, Column.Keyed, hform])
  exact ⟨v, by simpa [printSettings, htext] using hv, hs⟩

theorem assets_prints : Prints printAssets (RecordForm assetsColumns) := by
  intro a
  obtain ⟨layers, htext, hform⟩ := list_prints layer_prints a.layers
  obtain ⟨v, hv, ha⟩ := record_printed assetsColumns a [("layers", layers)]
    (by simp [assetsColumns, Column.Keyed, hform])
  exact ⟨v, by simpa [printAssets, htext] using hv, ha⟩

theorem controller_printed (c : Controller) {poses : List (String × List String)}
    (hposes : poses.Perm c.poses.entries) :
    ∃ v : Value, v.text = printController c poses ∧ RecordForm controllerColumns v c := by
  choose strings hstrings hform using strings_prints
  obtain ⟨table, htable, hmap⟩ := map_printed strings_prints hposes
  obtain ⟨v, hv, hc⟩ := record_printed controllerColumns c
    [("baseLayers", strings c.baseLayers), ("defaultPoses", strings c.defaultPoses), ("poses", table)]
    (by simp [controllerColumns, Column.Keyed, hform, hmap])
  exact ⟨v, by simpa [printController, printPoses, hstrings, htable] using hv, hc⟩

theorem model_printed (m : Model) {poses : List (String × List String)}
    (hposes : poses.Perm m.poses.entries) : ∃ v : Value, v.text = printWith m poses ∧ ModelForm v m := by
  obtain ⟨version, hversion, hversion'⟩ := string_prints m.version
  obtain ⟨metadata, hmetadata, hmetadata'⟩ := metadata_prints m.metadata
  obtain ⟨settings, hsettings, hsettings'⟩ := settings_prints m.settings
  obtain ⟨assets, hassets, hassets'⟩ := assets_prints m.assets
  obtain ⟨controller, hcontroller, hcontroller'⟩ := controller_printed m.controller hposes
  obtain ⟨v, hv, hm⟩ := record_printed modelColumns m
    [("version", version), ("metadata", metadata), ("settings", settings), ("assets", assets),
      ("controller", controller)]
    (by simp [modelColumns, Column.Keyed, *])
  refine ⟨v, ?_, hm⟩
  simpa [printWith, hversion, hmetadata, hsettings, hassets, hcontroller] using hv

/-- A model is read back from its text and from the bytes of it, in whatever order its poses are
written. -/
theorem ofText_printWith (m : Model) {poses : List (String × List String)}
    (hposes : poses.Perm m.poses.entries) :
    ofText (String.ofList (printWith m poses)) = .ok m ∧
      ofBytes (String.ofList (printWith m poses)).toUTF8 = .ok m := by
  obtain ⟨v, hv, hm⟩ := model_printed m hposes
  have hread := readAll_text model_reads (d := { value := v }) hm
  have hv' : Item.text { value := v } = printWith m poses := by simp [Item.text, hv]
  have htext : ofText (String.ofList (printWith m poses)) = .ok m := by
    rw [ofText, String.toList_ofList, ← hv', hread]
  exact ⟨htext, by simpa only [ofBytes, Text.decode_toUTF8] using htext⟩

def ornate : Model where
  version := "\"\\\n\x01/"
  metadata := { name := "😀", exportedAt := some "", description := some "\x1f" }
  assets := { layers := [
    { id := "", group := "g", name := "n", order := Int32.minValue },
    { id := "é", group := "", name := "\x7f", order := Int32.maxValue, path := "a/b" }] }
  controller := { baseLayers := ["é"], poses := .ofList [("p", []), ("\t", ["p", "g>"])] }

theorem ofText_printWith_ornate :
    ofText (String.ofList (printWith ornate [("p", []), ("\t", ["p", "g>"])])) = .ok ornate ∧
      ofBytes (String.ofList (printWith ornate [("p", []), ("\t", ["p", "g>"])])).toUTF8 = .ok ornate :=
  ofText_printWith ornate (by decide)

end Portrait.Document
