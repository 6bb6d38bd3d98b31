import Portrait.Document.Load
import Portrait.Proofs.Json.Record

/-! The ways to write a model, all of which load it. -/

namespace Portrait.Document

open Json

def layerColumns : List (Column Layer) := [
  { key := "id", get := Layer.id, form := TextForm },
  { key := "group", get := Layer.group, form := TextForm },
  { key := "name", get := Layer.name, form := TextForm },
  { key := "order", get := Layer.order, form := Int32Form, default? := some 0 },
  { key := "path", get := Layer.path, form := TextForm, default? := some "" }]

def metadataColumns : List (Column Metadata) := [
  { key := "name", get := Metadata.name, form := TextForm, default? := some "" },
  { key := "exportedAt", get := Metadata.exportedAt, form := OptionalForm TextForm
    default? := some none },
  { key := "author", get := Metadata.author, form := OptionalForm TextForm, default? := some none },
  { key := "description", get := Metadata.description, form := OptionalForm TextForm
    default? := some none }]

def settingsColumns : List (Column Settings) := [
  { key := "basePath", get := Settings.basePath, form := TextForm, default? := some "" }]

def assetsColumns : List (Column Assets) := [
  { key := "layers", get := Assets.layers, form := ListForm (RecordForm layerColumns)
    default? := some [] }]

def controllerColumns : List (Column Controller) := [
  { key := "baseLayers", get := Controller.baseLayers, form := ListForm TextForm
    default? := some [] },
  { key := "defaultPoses", get := Controller.defaultPoses, form := ListForm TextForm
    default? := some [] },
  { key := "poses", get := Controller.poses, form := MapForm (ListForm TextForm)
    default? := some ∅ }]

def modelColumns : List (Column Model) := [
  { key := "version", get := Model.version, form := TextForm, default? := some "" },
  { key := "metadata", get := Model.metadata, form := RecordForm metadataColumns
    default? := some {} },
  { key := "settings", get := Model.settings, form := RecordForm settingsColumns
    default? := some {} },
  { key := "assets", get := Model.assets, form := RecordForm assetsColumns, default? := some {} },
  { key := "controller", get := Model.controller, form := RecordForm controllerColumns
    default? := some {} }]

def ModelForm : Form Model := RecordForm modelColumns

theorem layer_fits : layer.Fits layerColumns where
  fields := by
    refine .cons ?id (.cons ?group (.cons ?name (.cons ?order (.cons ?path .nil))))
    case order => exact .of (by simp) int32_reads (fun _ _ => rfl) (by simp [layerColumns])
    all_goals exact .of (by simp) string_reads (fun _ _ => rfl) (by simp [layerColumns])
  nodup := by simp [layerColumns]
  blank := by simp [layerColumns, layer]
  ext a a' h := by
    cases a
    cases a'
    simpa [layerColumns] using h

theorem metadata_fits : metadata.Fits metadataColumns where
  fields := by
    refine .cons ?name (.cons ?exportedAt (.cons ?author (.cons ?description .nil)))
    case name => exact .of (by simp) string_reads (fun _ _ => rfl) (by simp [metadataColumns])
    all_goals exact .of (by simp) optionalString_reads (fun _ _ => rfl) (by simp [metadataColumns])
  nodup := by simp [metadataColumns]
  blank := by simp [metadataColumns, metadata]
  ext a a' h := by
    cases a
    cases a'
    simpa [metadataColumns] using h

theorem settings_fits : settings.Fits settingsColumns where
  fields := by
    refine .cons ?basePath .nil
    case basePath => exact .of (by simp) string_reads (fun _ _ => rfl) (by simp [settingsColumns])
  nodup := by simp [settingsColumns]
  blank := by simp [settingsColumns, settings]
  ext a a' h := by
    cases a
    cases a'
    simpa [settingsColumns] using h

theorem assets_fits : assets.Fits assetsColumns where
  fields := by
    refine .cons ?layers .nil
    case layers =>
      exact .of (by simp) (list_reads layer_fits.reads) (fun _ _ => rfl) (by simp [assetsColumns])
  nodup := by simp [assetsColumns]
  blank := by simp [assetsColumns, assets]
  ext a a' h := by
    cases a
    cases a'
    simpa [assetsColumns] using h

theorem controller_fits : controller.Fits controllerColumns where
  fields := by
    have hstrings := list_reads string_reads
    refine .cons ?baseLayers (.cons ?defaultPoses (.cons ?poses .nil))
    case poses =>
      exact .of (by simp) (map_reads hstrings) (fun _ _ => rfl) (by simp [controllerColumns])
    all_goals exact .of (by simp) hstrings (fun _ _ => rfl) (by simp [controllerColumns])
  nodup := by simp [controllerColumns]
  blank := by simp [controllerColumns, controller]
  ext a a' h := by
    cases a
    cases a'
    simpa [controllerColumns] using h

theorem model_fits : model.Fits modelColumns where
  fields := by
    refine .cons ?version (.cons ?metadata (.cons ?settings (.cons ?assets (.cons ?controller .nil))))
    case version => exact .of (by simp) string_reads (fun _ _ => rfl) (by simp [modelColumns])
    case metadata => exact .of (by simp) metadata_fits.reads (fun _ _ => rfl) (by simp [modelColumns])
    case settings => exact .of (by simp) settings_fits.reads (fun _ _ => rfl) (by simp [modelColumns])
    case assets => exact .of (by simp) assets_fits.reads (fun _ _ => rfl) (by simp [modelColumns])
    case controller => exact .of (by simp) controller_fits.reads (fun _ _ => rfl) (by simp [modelColumns])
  nodup := by simp [modelColumns]
  blank := by simp [modelColumns, model]
  ext a a' h := by
    cases a
    cases a'
    simpa [modelColumns] using h

theorem model_reads : model.reader.Reads ModelForm := model_fits.reads

theorem readAll_text {α : Type} {reader : Reader α} {F : Form α} (h : reader.Reads F)
    {d : Item Value} {a : α} (hd : F d.value a) : readAll reader d.text = .ok a := by
  have hdelim : Delimited d.after.text := by simpa using Delimited.blanks d.after delimited_nil
  simp only [readAll, Item.text, h hd d.before hdelim, skipBlanks_blanks]

/-- However a model is written, it is loaded. -/
theorem ofText_of_form {d : Item Value} {m : Model} (h : ModelForm d.value m) :
    ofText (String.ofList d.text) = .ok m := by
  rw [ofText, String.toList_ofList, readAll_text model_reads h]

def letters (s : String) : Spelling := s.toList.filterMap fun c =>
  if h : c ≠ '"' ∧ c ≠ '\\' ∧ 0x20 ≤ c.toNat then some (.plain c h) else none

/-- A model in mixed notation: arrays and objects for records, escapes in a key, half a pair of code
units in a value passed over, absent metadata as `null` and left out, poses out of order. -/
def patchwork : Item Value where
  before := ⟨['\n'], by simp [isBlank]⟩
  value := .array [
    { before := ⟨[' '], by simp [isBlank]⟩, value := .string (letters "2") },
    { before := ⟨['\t'], by simp [isBlank]⟩
      value := .object [
        { key := letters "x"
          value := .array [{ value := .string [.numbered ⟨'D', '8', '0', '0', _, rfl⟩] }] ∅ },
        { key := .numbered ⟨'0', '0', '6', 'e', _, rfl⟩ :: letters "ame"
          value := .string [.pair ⟨'d', '8', '3', 'd', _, rfl⟩ ⟨'d', 'e', '0', '0', _, rfl⟩ (by decide),
            .short '/' '/' rfl] },
        { key := letters "author", value := .null }] ∅ },
    { value := .array [] ⟨[' '], by simp [isBlank]⟩ },
    { value := .object [
        { key := letters "layers"
          value := .array [
            { value := .object [
                { key := letters "name", value := .string (letters "n") },
                { key := letters "?", value := .null },
                { key := letters "group", value := .string (letters "g") },
                { key := letters "id", value := .string (letters "i") }] ∅ },
            { value := .array [
                { value := .string (letters "j") },
                { value := .string (letters "h") },
                { value := .string (letters "m") },
                { value := .number {
                    negative := true, whole := ⟨['7'], by simp, by simp⟩, zero := by simp } }]
                ∅ }] ∅ }] ∅ },
    { value := .array [
        { value := .array [] ∅ },
        { value := .array [] ∅ },
        { value := .object [
            { key := letters "q"
              value := .array [{ value := .string (letters "x") }] ∅ },
            { key := letters "p", value := .array [] ∅ }] ∅ }] ∅ }] ∅

def patchworkModel : Model where
  version := "2"
  metadata := { name := "😀/" }
  assets := { layers := [
    { id := "i", group := "g", name := "n" }, { id := "j", group := "h", name := "m", order := -7 }] }
  controller := { poses := .ofList [("p", []), ("q", ["x"])] }

theorem ofText_of_form_patchwork :
    ofText ("\n[ \"2\",\t\x7b\"x\":[\"\\uD800\"],\"\\u006eame\":\"\\ud83d\\ude00\\/\"," ++
      "\"author\":null\x7d,[ ],\x7b\"layers\":[\x7b\"name\":\"n\",\"?\":null,\"group\":\"g\"," ++
      "\"id\":\"i\"\x7d,[\"j\",\"h\",\"m\",-7]]\x7d,[[],[],\x7b\"q\":[\"x\"],\"p\":[]\x7d]]") =
      .ok patchworkModel := by
  have hform : ModelForm patchwork.value patchworkModel := by
    refine .array ?_
    simp only [modelColumns, Column.Listed]
    refine ⟨.string (by decide), ?metadata, .array ?settings, ?assets, ?controller, trivial⟩
    case metadata =>
      refine .object (.cons (b := ("x", _)) ⟨by decide, rfl⟩ <|
        .cons (b := ("name", _)) ⟨by decide, rfl⟩ <|
        .cons (b := ("author", _)) ⟨by decide, rfl⟩ .nil) ?_
      simp only [metadataColumns, patchworkModel, List.forall_mem_cons]
      exact ⟨.string (by decide), rfl, .null, rfl, by simp⟩
    case settings => simp [settingsColumns, Column.Listed, patchworkModel]
    case assets =>
      refine .object (.cons (b := ("layers", _)) ⟨by decide, rfl⟩ .nil) ?_
      simp only [assetsColumns, patchworkModel, List.forall_mem_cons]
      refine ⟨.array (.cons ?object <| .cons ?array .nil), by simp⟩
      case object =>
        refine .object (.cons (b := ("name", _)) ⟨by decide, rfl⟩ <|
          .cons (b := ("?", _)) ⟨by decide, rfl⟩ <|
          .cons (b := ("group", _)) ⟨by decide, rfl⟩ <|
          .cons (b := ("id", _)) ⟨by decide, rfl⟩ .nil) ?_
        simp only [layerColumns, List.forall_mem_cons]
        exact ⟨.string (by decide), .string (by decide), .string (by decide), rfl, rfl, by simp⟩
      case array =>
        refine .array ?_
        simp only [layerColumns, Column.Listed]
        exact ⟨.string (by decide), .string (by decide), .string (by decide), .number (by decide),
          trivial, trivial⟩
    case controller =>
      refine .array ?_
      simp only [controllerColumns, Column.Listed]
      refine ⟨.array .nil, .array .nil, ?_, trivial⟩
      have hposes : patchworkModel.controller.poses = .ofList [("q", ["x"]), ("p", [])] := by decide
      rw [hposes]
      exact .object (.cons ⟨by decide, .array (.cons (.string (by decide)) .nil)⟩ <|
        .cons ⟨by decide, .array .nil⟩ .nil)
  refine Eq.trans (congrArg ofText ?_) (ofText_of_form hform)
  decide +kernel

end Portrait.Document
