import Wireframe.Document.Loading
import Wireframe.Proofs.DistinctKeys

/-!
# What loading comes to

A root that is an object loads unless its tabs are refused: the document has what the sections of the
root read as, and the tabs in the order that the tab bar lists (`Document.ofJson?_eq_ok`).
-/

namespace Wireframe.Document

variable {document : Document} {root : Entries Json}

/-- Whether a document was loaded from a value in which no object has a key twice. -/
def Loaded (document : Document) : Prop :=
  ∃ json, json.hasDistinctKeys = true ∧ ofJson? json = .ok document

/-- A document that was read from text was loaded from such a value. -/
theorem loaded_of_parse {text : String} (h : parse text = .ok document) : document.Loaded := by
  simp only [parse] at h
  split at h
  · next json hjson => exact ⟨json, Json.hasDistinctKeys_parse hjson, h⟩
  · cases h

lemma exists_of_bind_ok {α β : Type} {first : Except LoadError α} {next : α → Except LoadError β}
    {b : β} (h : first >>= next = .ok b) : ∃ a, first = .ok a ∧ next a = .ok b := by
  cases first with
  | error error => cases h
  | ok a => exact ⟨a, rfl, h⟩

/-- The shell of a document. -/
def shellOf (root : Entries Json) : Shell :=
  readShell (Entries.get? root "shell")
    ((readComponents (Entries.get? root "rootComponents")).get? "shell")

/-- The document with these tabs; everything else is read from the root. -/
def ofRoot (root : Entries Json) (tabs : List Tab) : Document :=
  { name := (Entries.string? root "name").getD "Untitled wireframe"
    description := Entries.string? root "description"
    shell := shellOf root
    tabs
    pages := readPages (Entries.get? root "pages")
    components := readComponents (Entries.get? root "components")
    rootComponents := readComponents (Entries.get? root "rootComponents")
    sampleData := readData (Entries.get? root "sampleData")
    actions := readActions (Entries.get? root "actions")
    state := readData (Entries.get? root "state")
    styles := StyleLibrary.ofJson? (Entries.get? root "styleLibrary") }

/-- Whether these are the tabs that a root declares, in the order that its tab bar lists. -/
def OrdersTabs (root : Entries Json) (declared tabs : List Tab) : Prop :=
  (match tabOrder? (shellOf root) (readComponents (Entries.get? root "components"))
      (readComponents (Entries.get? root "rootComponents")) with
    | some order => orderTabs [] declared order
    | none => .ok declared) = .ok tabs

lemma ofJson?_eq_ok : ofJson? (.object root) = .ok document
    ↔ ∃ declared tabs, readTabs (Entries.get? root "tabs") = .ok declared
      ∧ OrdersTabs root declared tabs ∧ document = ofRoot root tabs := by
  constructor
  · intro h
    obtain ⟨declared, hdeclared, h⟩ := exists_of_bind_ok h
    refine ⟨declared, ?_⟩
    simp only [OrdersTabs]
    extract_lets finish at h
    split at h
    · next order horder =>
      obtain ⟨tabs, htabs, h⟩ := exists_of_bind_ok h
      cases h
      refine ⟨tabs, hdeclared, ?_, rfl⟩
      rw [shellOf, horder]
      exact htabs
    · next horder =>
      cases h
      refine ⟨declared, hdeclared, ?_, rfl⟩
      rw [shellOf, horder]
  · rintro ⟨declared, tabs, hdeclared, horder, rfl⟩
    simp only [OrdersTabs] at horder
    split at horder
    · next order hsome =>
      rw [shellOf] at hsome
      simp only [ofJson?, hdeclared, hsome]
      change (orderTabs [] declared order >>= _) = _
      rw [horder]
      rfl
    · next hnone =>
      cases horder
      rw [shellOf] at hnone
      simp only [ofJson?, hdeclared, hnone]
      rfl

end Wireframe.Document
