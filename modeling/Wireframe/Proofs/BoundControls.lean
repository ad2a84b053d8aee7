import Wireframe.Screen.Site
import Wireframe.Proofs.DottedPaths
import Wireframe.Proofs.Operations
import Wireframe.Proofs.Replay

/-!
# Controls that are bound to the state

A control writes where its prop reads. The place is carried through the tree as the text of a path;
as this text reads as the path of the binding again, a value that a control has written is what the
control's binding finds, unless it is a text that refers to sample data
(`Site.lookup_setValue_target`).
-/

namespace Wireframe

namespace Binding

variable {source written : String} {path : Path}

/-- The path of a binding to the state was read from a text. -/
lemma exists_text_of_parse (h : parse source = state path written) :
    ∃ text, path = Path.parse text := by
  simp only [parse] at h
  split at h
  · cases h
  · split at h
    · cases h
    · split at h
      · cases h
        exact ⟨_, rfl⟩
      · cases h

lemma parse_display_of_parse (h : parse source = state path written) :
    Path.parse path.display = path := by
  obtain ⟨text, rfl⟩ := exists_text_of_parse h
  exact Path.parse_display_parse text

variable {context : Context} {text rest : String}

/-- A text that refers to sample data stands for the data, if it is there. -/
lemma follow_of_reference {value : Json}
    (h : context.sampleData.lookup (Path.parse rest) = some value) :
    follow context (.string ("@sampleData." ++ rest)) = value := by
  have hrest : Text.dropStart? sampleDataStart ("@sampleData." ++ rest) = some rest :=
    Text.dropStart?_eq_some_iff.mpr rfl
  simp only [follow, Json.sampleReference?, Json.string?, Option.bind_some, hrest, Option.map_some,
    h]

/-- A text that refers to no sample data that is there stands for itself. -/
lemma follow_of_no_reference (h : ∀ rest, text = "@sampleData." ++ rest →
      context.sampleData.lookup (Path.parse rest) = none) :
    follow context (.string text) = .string text := by
  simp only [follow, Json.sampleReference?, Json.string?, Option.bind_some]
  cases hrest : Text.dropStart? sampleDataStart text with
  | none => rfl
  | some rest =>
    simp only [Option.map_some, Option.bind_some, h rest (Text.dropStart?_eq_some_iff.mp hrest)]

/-- A value that does not refer to sample data stands for itself. -/
lemma follow_eq_self {value : Json}
    (h : ∀ text, value = .string text → ¬"@sampleData.".toList <+: text.toList)
    (context : Context) : follow context value = value := by
  cases value with
  | string text =>
    refine follow_of_no_reference fun rest heq => absurd ?_ (h text rfl)
    rw [heq, String.toList_append]
    exact List.prefix_append _ _
  | _ => rfl

end Binding

namespace Site

/-- A prop that is bound to the state makes its control write to the place that it reads. -/
lemma target_of_bound {site : Site} {field : Field} {source written : String} {path : Path}
    (hprop : site.prop? field = some (.ofJson (.string source)))
    (hbound : Binding.parse source = .state path written) :
    site.target field = .state path.display := by
  simp only [target, hprop, PropValue.ofJson, Option.bind_some, PropValue.binding?, hbound,
    Binding.statePath?]

/-- The text of a path reads as the path that was read. So a control that is bound to the state
reads what it has written: its target holds the value, and its binding finds the value. -/
theorem lookup_setValue_target :
    (∀ text, Path.parse (Path.parse text).display = Path.parse text)
      ∧ ∀ (site : Site) (field : Field) (source : String) (path : Path),
        site.prop? field = some (.ofJson (.string source)) →
        Binding.parse source = .state path source →
        ∀ (stage : Stage) (item : Option Json) (session : Session) (value : Json),
          (∀ text, value = .string text → ¬"@sampleData.".toList <+: text.toList) →
          (session.setValue (site.target field) value).value? (site.target field) = some value
            ∧ (Binding.parse source).lookup
                (stage.context (session.setValue (site.target field) value) item)
              = some value := by
  refine ⟨Path.parse_display_parse, ?_⟩
  intro site field source path hprop hbound stage item session value hvalue
  refine ⟨session.value?_setValue _ value, ?_⟩
  rw [target_of_bound hprop hbound, hbound]
  have hfound : (session.setValue (.state path.display) value).values.lookup path = some value := by
    rw [Session.setValue, Binding.parse_display_of_parse hbound]
    exact Json.lookup_assign _ _ _
  rw [Binding.lookup, Stage.context, hfound, Option.map_some, Binding.follow_eq_self hvalue]

/-- A note that is typed into a field of the loans. -/
theorem lookup_setValue_target_notes :
    ∃ (stage : Stage) (session : Session) (site : Site),
      Document.ofJson? Json.loans = .ok stage.document
        ∧ site.prop? .value = some (.ofJson (.string " @state.form..notes "))
        ∧ site.target .value = .state "form.notes"
        ∧ (session.setValue (site.target .value) (.string "Lens cap")).value? (site.target .value)
          = some (.string "Lens cap")
        ∧ (Binding.parse " @state.form..notes ").lookup
            (stage.context (session.setValue (site.target .value) (.string "Lens cap")) none)
          = some (.string "Lens cap") := by
  obtain ⟨document, hload⟩ : ∃ document, Document.ofJson? Json.loans = .ok document := ⟨_, rfl⟩
  let stage : Stage := { document, options := { now := 0 } }
  let session := Session.initial document
  let entry : Component :=
    { Component.ofType .entry with
      props := [("value", .ofJson (.string " @state.form..notes "))] }
  have hbound : Binding.parse " @state.form..notes "
      = .state ⟨["form", "notes"]⟩ " @state.form..notes " := by decide +kernel
  exact ⟨stage, session, stage.site session {} entry "screen/page", hload, rfl,
    target_of_bound rfl hbound,
    lookup_setValue_target.2 _ _ _ _ rfl hbound _ _ _ _ (by simp)⟩

end Site

end Wireframe
