import Wireframe.Proofs.SessionLog

/-!
# No stale frame

The screen of a preview is the one its session calls for, after whatever operations, and its markup
is what was handed to the canvas last. A change without an event leaves the session alone, so that
drawing may be left out for it. When the preview is torn down the canvas is cleared for good
(`Preview.screen_run`).
-/

namespace Wireframe.Preview

/-- The screen is that of the session, and the canvas shows it until it is cleared. -/
structure Current (preview : Preview) : Prop where
  screen : preview.screen = preview.stage.screen preview.session
  shown : preview.tornDown = false → preview.canvas.html = preview.screen.html
  cleared : preview.tornDown = true → preview.canvas.html = ""

variable {preview : Preview}

lemma current_of_mount {canvas : Canvas} {stage : Stage}
    (h : mount (some canvas) stage = .ok preview) : preview.Current := by
  cases h
  exact ⟨rfl, fun _ => rfl, fun htorn => nomatch htorn⟩

lemma current_redraw (h : preview.tornDown = false) : preview.redraw.Current :=
  ⟨rfl, fun _ => rfl, fun htorn => by simp [h] at htorn⟩

namespace Current

variable {change : Change}

lemma perform (h : preview.Current) : (preview.perform change).1.Current := by
  cases htorn : preview.tornDown with
  | true => simpa [perform_of_tornDown htorn] using h
  | false =>
    rw [perform_of_live htorn]
    exact current_redraw htorn

lemma performQuietly (h : preview.Current) (hlogged : change.Logged preview.stage.document) :
    (preview.performQuietly change).1.Current := by
  cases htorn : preview.tornDown with
  | true => simpa [performQuietly_of_tornDown htorn] using h
  | false =>
    rw [performQuietly_of_live htorn]
    dsimp only
    split
    · next hevents =>
      -- nothing is told, so the session is the one that was drawn
      have hlog := hlogged preview.activity
      rw [List.isEmpty_iff.mp hevents] at hlog
      have hsession : (change preview.activity).1.session = preview.session := hlog.eq_of_nil
      refine ⟨?_, h.shown, h.cleared⟩
      exact h.screen.trans (congrArg preview.stage.screen hsession.symm)
    · exact current_redraw htorn

lemma teardown (h : preview.Current) : preview.teardown.Current := by
  unfold Preview.teardown
  split
  · exact h
  · exact ⟨h.screen, fun hlive => (nomatch hlive), fun _ => rfl⟩

theorem apply (h : preview.Current) (operation : Operation) :
    (preview.apply operation).1.Current := by
  generalize hnext : preview.apply operation = next
  have houtcome := preview.apply_cases operation
  rw [hnext] at houtcome
  cases houtcome with
  | performed _ => exact h.perform
  | performedQuietly offered => exact h.performQuietly offered.logged
  | hosted host => exact ⟨h.screen, h.shown, h.cleared⟩
  | tornDown _ => exact h.teardown

theorem run (h : preview.Current) (operations : List Operation) :
    (preview.run operations).1.Current :=
  run_induction (fun _ operation hcurrent => hcurrent.apply operation) h operations

end Current

/-! ### After the end -/

lemma canvas_teardown (h : preview.Current) :
    preview.teardown.canvas = { html := "", frames := preview.canvas.frames } := by
  unfold Preview.teardown
  split
  · next htorn => rw [← h.cleared htorn]
  · rfl

lemma canvas_apply_of_tornDown (h : preview.tornDown = true) (operation : Operation) :
    (preview.apply operation).1.canvas = preview.canvas := by
  generalize hnext : preview.apply operation = next
  have houtcome := preview.apply_cases operation
  rw [hnext] at houtcome
  cases houtcome with
  | performed _ => rw [perform_of_tornDown h]
  | performedQuietly _ => rw [performQuietly_of_tornDown h]
  | hosted host => rfl
  | tornDown _ => simp [Preview.teardown, h]

lemma tornDown_apply_of_tornDown (h : preview.tornDown = true) (operation : Operation) :
    (preview.apply operation).1.tornDown = true := by
  by_cases hend : operation = .teardown
  · subst hend
    exact preview.tornDown_teardown
  · rw [tornDown_apply hend, h]

lemma canvas_run_of_tornDown (h : preview.tornDown = true) (operations : List Operation) :
    (preview.run operations).1.canvas = preview.canvas := by
  induction operations generalizing preview with
  | nil => rfl
  | cons operation operations ih =>
    rw [run_cons, ih (tornDown_apply_of_tornDown h operation), canvas_apply_of_tornDown h]

lemma screen_run_of_mount {canvas : Canvas} {stage : Stage} {first : Preview}
    (h : mount (some canvas) stage = .ok first) (operations : List Operation) :
    (first.run operations).1.screen = stage.screen (first.run operations).1.session := by
  have hscreen := ((current_of_mount h).run operations).screen
  rwa [stage_run_of_mount h] at hscreen

/-- After any run the screen is that of the session. Its markup is what the canvas was handed last,
until the preview is torn down; from then on the canvas is empty and gets no more frames. -/
theorem screen_run {canvas : Canvas} {stage : Stage} {first : Preview}
    (h : mount (some canvas) stage = .ok first) (operations : List Operation) :
    (first.run operations).1.screen = stage.screen (first.run operations).1.session
      ∧ (.teardown ∉ operations →
        (first.run operations).1.canvas.html = (first.run operations).1.screen.html)
      ∧ ∀ more, (first.run (operations ++ .teardown :: more)).1.canvas
        = { html := "", frames := (first.run operations).1.canvas.frames } := by
  have hcurrent := (current_of_mount h).run operations
  refine ⟨screen_run_of_mount h operations, fun hnotin => ?_, fun more => ?_⟩
  · exact hcurrent.shown (live_run_of_mount h hnotin)
  · rw [run_append, run_cons]
    dsimp only [apply]
    rw [canvas_run_of_tornDown (tornDown_teardown _), canvas_teardown hcurrent]

theorem screen_run_loans :
    ∃ document first operations,
      Document.ofJson? Json.loans = .ok document
        ∧ mount (some {}) { document, options := { now := 0 } } = .ok first
        ∧ operations = [.invoke "openEditor", .showSnackbar, .advance 0, .selectTab "List"]
        ∧ (first.run operations).1.screen
          = Stage.screen { document, options := { now := 0 } } (first.run operations).1.session
        ∧ (.teardown ∉ operations →
          (first.run operations).1.canvas.html = (first.run operations).1.screen.html)
        ∧ ∀ more, (first.run (operations ++ .teardown :: more)).1.canvas
          = { html := "", frames := (first.run operations).1.canvas.frames } :=
  ⟨_, _, _, rfl, rfl, rfl, screen_run rfl _⟩

end Wireframe.Preview
