import InterfaceLint.ModelFile
import InterfaceLint.Proofs.Model.Index
import InterfaceLint.Proofs.Outcome

/-!
# Loading model files

A file is loaded exactly when it can be read, is text, and the text is a
document with pairwise different keys; what stands in the way of any other
file is one of four causes.  Loading several files splits them into models and
failures without losing, adding or moving any.
-/

set_option autoImplicit false

namespace InterfaceLint

def Document.In (disk : Disk) (path : String) (document : Document) : Prop :=
  ∃ content text, disk.read path = .ok content ∧ String.fromUTF8? content = some text ∧
    Document.parse text = .ok document

/-- Why a file is no model. -/
inductive Unloadable (disk : Disk) (path : String) : Prop
  | unreadable (fault : DiskFault) (failed : disk.read path = .error fault)
  | notText (content : ByteArray) (isRead : disk.read path = .ok content)
      (invalid : String.fromUTF8? content = none)
  | malformed (content : ByteArray) (text : String) (error : Json.ReadError)
      (isRead : disk.read path = .ok content) (isText : String.fromUTF8? content = some text)
      (failed : Document.parse text = .error error)
  | repeatedKey (document : Document) (found : document.In disk path)
      (repeated : ¬ (document.symbols.map Symbol.key).Nodup)

theorem Disk.readText_eq_ok_iff {disk : Disk} {path text : String} :
    disk.readText path = .ok text ↔
      ∃ content, disk.read path = .ok content ∧ String.fromUTF8? content = some text := by
  rw [Disk.readText, bind_eq_ok_iff]
  constructor
  · intro steps
    obtain ⟨content, isRead, isText⟩ := steps
    split at isText
    · rename_i decoded
      cases isText
      exact ⟨content, isRead, decoded⟩
    · cases isText
  · intro holds
    obtain ⟨content, isRead, isText⟩ := holds
    exact ⟨content, isRead, by rw [isText]⟩

/-- A text that was written is read back. -/
theorem Disk.readText_of_find_eq_ok {disk : Disk} {path text : String}
    (found : disk.find path = .ok (.file text.toUTF8)) : disk.readText path = .ok text := by
  have isRead : disk.read path = .ok text.toUTF8 := by rw [read, found]; rfl
  have valid : text.toUTF8.IsValidUTF8 := text.isValidUTF8
  have decoded : String.fromUTF8? text.toUTF8 = some text := by
    rw [String.fromUTF8?, dif_pos valid]
    rfl
  exact readText_eq_ok_iff.mpr ⟨_, isRead, decoded⟩

/-- A file is loaded exactly when it holds a document that has a model. -/
theorem Model.load_eq_ok_iff {disk : Disk} {path : String} {model : Model} :
    Model.load disk path = .ok model ↔
      ∃ document, document.In disk path ∧ Model.ofDocument document = .ok model := by
  simp only [Model.load, Model.parse, bind_eq_ok_iff, mapError_eq_ok_iff,
    Disk.readText_eq_ok_iff, Document.In]
  constructor
  · intro steps
    obtain ⟨text, ⟨content, isRead, isText⟩, document, parsed, built⟩ := steps
    exact ⟨document, ⟨content, text, isRead, isText, parsed⟩, built⟩
  · intro holds
    obtain ⟨document, ⟨content, text, isRead, isText, parsed⟩, built⟩ := holds
    exact ⟨text, ⟨content, isRead, isText⟩, document, parsed, built⟩

theorem Unloadable.load_ne_ok {disk : Disk} {path : String} (cause : Unloadable disk path)
    (model : Model) : Model.load disk path ≠ .ok model := by
  intro loaded
  obtain ⟨document, ⟨content, text, isRead, isText, parsed⟩, built⟩ :=
    Model.load_eq_ok_iff.mp loaded
  cases cause with
  | unreadable fault failed => cases isRead.symm.trans failed
  | notText other otherRead invalid =>
      cases isRead.symm.trans otherRead
      cases isText.symm.trans invalid
  | malformed other otherText error otherRead otherIsText failed =>
      cases isRead.symm.trans otherRead
      cases isText.symm.trans otherIsText
      cases parsed.symm.trans failed
  | repeatedKey other found repeated =>
      obtain ⟨_, _, otherRead, otherIsText, otherParsed⟩ := found
      cases isRead.symm.trans otherRead
      cases isText.symm.trans otherIsText
      cases parsed.symm.trans otherParsed
      exact repeated (Model.ofDocument_isOk_iff_nodup.mp ⟨model, built⟩)

/-- A file that is not loaded has a cause against it. -/
theorem Model.load_isError_iff {disk : Disk} {path : String} :
    (∃ error, Model.load disk path = .error error) ↔ Unloadable disk path := by
  constructor
  · intro fails
    obtain ⟨error, failed⟩ := fails
    cases isRead : disk.read path with
    | error fault => exact .unreadable fault isRead
    | ok content =>
        cases isText : String.fromUTF8? content with
        | none => exact .notText content isRead isText
        | some text =>
            cases parsed : Document.parse text with
            | error malformed => exact .malformed content text malformed isRead isText parsed
            | ok document =>
                have found : document.In disk path := ⟨content, text, isRead, isText, parsed⟩
                refine .repeatedKey document found ?_
                intro distinct
                obtain ⟨model, built⟩ := Model.ofDocument_isOk_iff_nodup.mpr distinct
                cases failed.symm.trans (Model.load_eq_ok_iff.mpr ⟨document, found, built⟩)
  · intro cause
    cases outcome : Model.load disk path with
    | ok model => exact absurd outcome (cause.load_ne_ok model)
    | error error => exact ⟨error, rfl⟩

/-! ## Loading several files -/

/-- Every file is a model or a failure, and none is both. -/
theorem loadModels_length (disk : Disk) (files : List String) :
    (loadModels disk files).models.length + (loadModels disk files).failures.length =
      files.length := by
  induction files with
  | nil => rfl
  | cons path files induction =>
      simp only [loadModels, List.map_cons, List.filterMap_cons] at induction ⊢
      cases Model.load disk path with
      | ok model =>
          simp only [loaded?, failed?, List.length_cons]
          omega
      | error error =>
          simp only [loaded?, failed?, List.length_cons]
          omega

/-- What is loaded depends on what the files read as only. -/
theorem loadModels_congr {disk changed : Disk} {files : List String}
    (same : ∀ path ∈ files, changed.readText path = disk.readText path) :
    loadModels changed files = loadModels disk files := by
  have attempts : files.map (fun path => (path, Model.load changed path)) =
      files.map fun path => (path, Model.load disk path) := by
    refine List.map_congr_left fun path member => ?_
    rw [Model.load, Model.load, same path member]
  simp only [loadModels, attempts]

theorem loadModels_models_flatMap {α : Type} (disk : Disk) (make : Model → List α)
    (files : List String) :
    (loadModels disk files).models.flatMap (fun loaded => make loaded.model) =
      files.flatMap fun path =>
        match Model.load disk path with
        | .ok model => make model
        | .error _ => [] := by
  induction files with
  | nil => rfl
  | cons path files induction =>
      simp only [loadModels, List.map_cons, List.filterMap_cons, List.flatMap_cons] at induction ⊢
      rw [← induction]
      cases Model.load disk path with
      | ok model => rfl
      | error error => rfl

theorem loadModels_failures_map {α : Type} (disk : Disk) (make : UnreadableModel → α)
    (files : List String) :
    (loadModels disk files).failures.map make =
      files.flatMap fun path =>
        match Model.load disk path with
        | .ok _ => []
        | .error error => [make { path, error := error.message }] := by
  induction files with
  | nil => rfl
  | cons path files induction =>
      simp only [loadModels, List.map_cons, List.filterMap_cons, List.flatMap_cons] at induction ⊢
      rw [← induction]
      cases Model.load disk path with
      | ok model => rfl
      | error error => rfl

end InterfaceLint
