import Wireframe.Proofs.CurrentScreen
import Wireframe.Proofs.NodeIds
import Wireframe.Proofs.TabIds
import Wireframe.Proofs.Targets

/-!
# Ids are addresses

In a loaded document the ids of all nodes that are drawn together are different. Thus an id that comes
in with an operation means one node of the screen, and a value that is kept under an id is that of one
control, or of one group of radio buttons (`Preview.addresses_run`).
-/

namespace Wireframe

/-- No two nodes of a screen, or of a component that is drawn by itself, have the same id. -/
lemma Stage.nodup_ids {stage : Stage} (h : stage.document.Loaded) (session : Session) :
    ((stage.screen session).preorder.map Node.id).Nodup
      ∧ ∀ componentId, ((stage.single session componentId).preorder.map Node.id).Nodup :=
  ⟨(stage.named_screen session h.nodup_tabIds).distinct,
    fun componentId => (stage.named_single session componentId).distinct⟩

namespace Preview

/-- A node of the screen is what a search for its id finds, and its interaction is the one that
activating the id or typing into it leads to. -/
lemma Current.interaction?_eq {preview : Preview} (h : preview.Current)
    (hloaded : preview.stage.document.Loaded) {n : Node} (hn : n ∈ preview.screen.preorder) :
    preview.screen.find? n.id = some n ∧ preview.interaction? n.id = n.interaction := by
  have hdistinct : (preview.screen.preorder.map Node.id).Nodup := by
    rw [h.screen]
    exact (Stage.nodup_ids hloaded preview.session).1
  have hfind := Node.find?_of_mem hdistinct hn
  exact ⟨hfind, by rw [interaction?, hfind, Option.bind_some]⟩

/-- In a loaded document, nodes that are drawn together have different ids, in every session. After
any run, each node of the screen is the one that its id addresses, and what it writes locally is kept
under its own id or under that of the radio group around it. -/
theorem addresses_run {stage : Stage} (hloaded : stage.document.Loaded) :
    (∀ session, ((stage.screen session).preorder.map Node.id).Nodup
        ∧ ∀ componentId, ((stage.single session componentId).preorder.map Node.id).Nodup)
      ∧ ∀ canvas first operations, mount (some canvas) stage = .ok first →
        ∀ n ∈ (first.run operations).1.screen.preorder,
          (first.run operations).1.screen.find? n.id = some n
            ∧ (first.run operations).1.interaction? n.id = n.interaction
            ∧ ∀ key, n.target? = some (.local key) →
              key = n.id ∨ ∃ group ∈ (first.run operations).1.screen.preorder,
                group.isRadioGroup ∧ key = group.id ∧ n ∈ group.preorder := by
  refine ⟨Stage.nodup_ids hloaded, fun canvas first operations h n hn => ?_⟩
  have hcurrent := (current_of_mount h).run operations
  have hloaded' : (first.run operations).1.stage.document.Loaded := by
    rw [stage_run_of_mount h]
    exact hloaded
  obtain ⟨hfind, hinteraction⟩ := hcurrent.interaction?_eq hloaded' hn
  refine ⟨hfind, hinteraction, fun key hkey => ?_⟩
  rw [hcurrent.screen] at hn ⊢
  exact Stage.owner_of_mem_screen hn hkey

theorem addresses_run_loans :
    ∃ document first n,
      document.Loaded
        ∧ mount (some {}) { document, options := { now := 0 } } = .ok first
        ∧ n ∈ (first.run [.invoke "openEditor"]).1.screen.preorder
        ∧ n.target? = some (.local "screen/page/0/0")
        ∧ (first.run [.invoke "openEditor"]).1.screen.find? n.id = some n
        ∧ (first.run [.invoke "openEditor"]).1.interaction? n.id = n.interaction
        ∧ ("screen/page/0/0" = n.id
          ∨ ∃ group ∈ (first.run [.invoke "openEditor"]).1.screen.preorder,
            group.isRadioGroup ∧ "screen/page/0/0" = group.id ∧ n ∈ group.preorder) := by
  obtain ⟨document, first, hload, hmount, htarget⟩ : ∃ document first,
      Document.ofJson? Json.loans = .ok document
        ∧ mount (some {}) { document, options := { now := 0 } } = .ok first
        ∧ ((first.run [.invoke "openEditor"]).1.screen.find? "screen/page/0/0").bind Node.target?
          = some (.local "screen/page/0/0") :=
    ⟨_, _, rfl, rfl, by decide +kernel⟩
  obtain ⟨n, hfind, hkey⟩ := Option.bind_eq_some_iff.mp htarget
  have hloaded : document.Loaded := ⟨Json.loans, rfl, hload⟩
  have hn := Node.mem_of_find? hfind
  obtain ⟨hfound, hinteraction, howner⟩ :=
    (@addresses_run { document, options := { now := 0 } } hloaded).2 _ _ _ hmount n hn
  exact ⟨document, first, n, hloaded, hmount, hn, hkey, hfound, hinteraction, howner _ hkey⟩

end Preview

end Wireframe
