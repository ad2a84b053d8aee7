import Wireframe.Proofs.Addresses
import Wireframe.Proofs.DistinctValues
import Wireframe.Proofs.JsonEquality
import Wireframe.Proofs.Replay

/-!
# Going round the options of a picker

A picker does not keep which option it shows: it looks its value up among the options. Activating it
writes the next option, or finds an equal value there already; in both cases the option is the one that
is looked up next, if the options are different (`Preview.InUse.next_option`). So the options come one
after the other, and round again (`Preview.cycle_run`).
-/

namespace Wireframe

/-- Among values that are pairwise different, a value that is equal to one of them is found there. -/
lemma Json.findIdx?_of_equal {options : List Json} (h : options.Pairwise fun a b => (a == b) = false)
    {i : Nat} {option value : Json} (hoption : options[i]? = some option)
    (hvalue : value.hasDistinctKeys = true) (hequal : (value == option) = true) :
    options.findIdx? (· == value) = some i := by
  obtain ⟨hi, rfl⟩ := List.getElem?_eq_some_iff.mp hoption
  refine List.findIdx?_eq_some_iff_getElem.mpr ⟨hi, equal_symm hvalue hequal, fun j hj hother => ?_⟩
  have hsame : (options[j] == options[i]) = true := equal_trans hother hequal
  rw [List.pairwise_iff_getElem.mp h j i (Nat.lt_trans hj hi) hi hj] at hsame
  cases hsame

/-- Going round from one place, every place is visited once before it starts again. -/
lemma Nat.existsUnique_add_mod {count start place : Nat} (hstart : start < count)
    (hplace : place < count) : ∃! step, (1 ≤ step ∧ step ≤ count) ∧ (start + step) % count = place := by
  have hmod : ∀ step ≤ count, (start + step) % count
      = if start + step < count then start + step else start + step - count := by
    intro step hstep
    split
    · next hlt => exact Nat.mod_eq_of_lt hlt
    · next hge => rw [Nat.mod_eq_sub_mod (by omega), Nat.mod_eq_of_lt (by omega)]
  refine ⟨if start < place then place - start else place + count - start, ⟨?_, ?_⟩, ?_⟩
  · split <;> omega
  · rw [hmod _ (by split <;> omega)]
    split <;> split <;> omega
  · rintro step ⟨⟨hpos, hle⟩, heq⟩
    rw [hmod step hle] at heq
    split at heq <;> split <;> omega

/-- After a value was written, one that is equal to it is there. -/
lemma Change.exists_value?_write (target : Target) {value : Json} (h : value.hasDistinctKeys = true)
    (activity : Activity) :
    ∃ kept, (write target value activity).1.session.value? target = some kept
      ∧ (kept == value) = true := by
  simp only [write, ofSession?]
  split
  · next session hnext =>
    split at hnext
    · cases hnext
    · cases hnext
      exact ⟨value, Session.value?_setValue _ _ _, Json.equal_self h⟩
  · next hnext =>
    split at hnext
    · next hsame =>
      cases hkept : activity.session.value? target with
      | none => rw [hkept] at hsame; cases hsame
      | some kept =>
        rw [hkept] at hsame
        exact ⟨kept, rfl, hsame⟩
    · cases hnext

/-- A node of a screen that goes through options is a picker. It has some, and the one that is selected
is one of them. -/
lemma Stage.picker_of_mem_screen {stage : Stage} (h : stage.document.AllRead) {session : Session}
    {n : Node} (hn : n ∈ (stage.screen session).preorder) {target : Target} {options : List Json}
    {current : Option Nat} (hinteraction : n.interaction = some (.cyclePicker target options current)) :
    (∃ label shown count disabled, n.widget = .picker label shown count disabled)
      ∧ 0 < options.length ∧ ∀ i ∈ current, i < options.length := by
  have htarget : n.target? = some target := Node.target?_of_interaction hinteraction
  obtain ⟨_, _, _, -, -, _, rfl⟩ := exists_site_of_target? h hn htarget
  cases Site.control_node htarget with
  | picker hwidget hnonempty hpicker =>
    rw [hinteraction] at hpicker
    cases hpicker
    rw [List.length_map]
    refine ⟨⟨_, _, _, _, hwidget⟩, List.length_pos_iff.mpr hnonempty, fun i hi => ?_⟩
    exact (List.findIdx?_eq_some_iff_findIdx_eq.mp hi).1
  | textField _ hother | toggle _ hother | radio _ hother =>
    rw [hinteraction] at hother
    cases hother

lemma Json.eq_of_mapM_string? {options : List Json} {texts : List String}
    (h : options.mapM string? = some texts) : options = texts.map .string := by
  induction options generalizing texts with
  | nil =>
    cases h
    rfl
  | cons option options ih =>
    rw [List.mapM_cons] at h
    obtain ⟨text, htext, h⟩ := Option.bind_eq_some_iff.mp h
    obtain ⟨more, hmore, h⟩ := Option.bind_eq_some_iff.mp h
    cases h
    cases option with
    | string own => rw [List.map_cons, ← ih hmore, Option.some_inj.mp htext]
    | _ => cases htext

/-- Where a picker writes, its options, if they are texts, and the one that is selected. -/
def Node.pickerTexts? (node : Node) : Option (Target × List String × Option Nat) :=
  match node.interaction with
  | some (.cyclePicker target options current) =>
    (options.mapM Json.string?).map fun texts => (target, texts, current)
  | _ => none

lemma Node.interaction_of_pickerTexts? {node : Node} {target : Target} {texts : List String}
    {current : Option Nat} (h : node.pickerTexts? = some (target, texts, current)) :
    node.interaction = some (.cyclePicker target (texts.map .string) current) := by
  unfold pickerTexts? at h
  split at h
  · next hinteraction =>
    obtain ⟨_, htexts, heq⟩ := Option.map_eq_some_iff.mp h
    cases heq
    rw [hinteraction, Json.eq_of_mapM_string? htexts]
  · cases h

namespace Preview

/-- Whether a node of the screen is a picker that writes one of these options, with this one
selected. -/
def Picks (preview : Preview) (nodeId : String) (target : Target) (options : List Json)
    (current : Option Nat) : Prop :=
  ∃ n ∈ preview.screen.preorder, n.id = nodeId
    ∧ n.interaction = some (.cyclePicker target options current)

/-- The preview after a node was activated so many times. -/
def activateTimes (nodeId : String) (count : Nat) (preview : Preview) : Preview :=
  (preview.run (List.replicate count (.activate nodeId))).1

/-- Whether a preview shows a loaded document and may be used. -/
structure InUse (preview : Preview) : Prop where
  current : preview.Current
  loaded : preview.stage.document.Loaded
  session : preview.session.HasDistinctKeys
  live : preview.tornDown = false

variable {preview : Preview} {nodeId : String} {target : Target} {options : List Json}
  {current shown : Option Nat}

lemma activateTimes_succ (count : Nat) : preview.activateTimes nodeId (count + 1)
    = ((preview.activateTimes nodeId count).activate nodeId).1 := by
  rw [activateTimes, List.replicate_succ', run_append]
  rfl

/-- A picker has one option selected, or none. -/
lemma Current.picks_unique (h : preview.Current) (hloaded : preview.stage.document.Loaded)
    (hpicks : preview.Picks nodeId target options current)
    (hshown : preview.Picks nodeId target options shown) : current = shown := by
  obtain ⟨n, hn, rfl, hinteraction⟩ := hpicks
  obtain ⟨m, hm, hid, hother⟩ := hshown
  have hsame := (h.interaction?_eq hloaded hn).2.symm.trans (hid ▸ (h.interaction?_eq hloaded hm).2)
  rw [hinteraction, hother] at hsame
  cases hsame
  rfl

/-- A picker that a search finds, as far as it can be computed. -/
lemma picks_of_pickerTexts? {texts : List String}
    (h : (preview.screen.find? nodeId).bind Node.pickerTexts? = some (target, texts, current)) :
    preview.Picks nodeId target (texts.map .string) current := by
  obtain ⟨n, hfind, hn⟩ := Option.bind_eq_some_iff.mp h
  exact ⟨n, Node.mem_of_find? hfind, Node.id_of_find? hfind, Node.interaction_of_pickerTexts? hn⟩

namespace InUse

lemma run {stage : Stage} (hloaded : stage.document.Loaded) {canvas : Canvas} {first : Preview}
    (h : mount (some canvas) stage = .ok first) {operations : List Operation}
    (hlive : (first.run operations).1.tornDown = false) : (first.run operations).1.InUse :=
  ⟨(current_of_mount h).run operations, (stage_run_of_mount h operations).symm ▸ hloaded,
    hasDistinctKeys_run hloaded h operations, hlive⟩

variable (h : preview.InUse)
include h

lemma activate (nodeId : String) : (preview.activate nodeId).1.InUse where
  current := h.current.apply (.activate nodeId)
  loaded := (preview.stage_apply (.activate nodeId)).symm ▸ h.loaded
  session := h.current.hasDistinctKeys_apply h.loaded h.session (.activate nodeId)
  live := (@tornDown_apply preview (.activate nodeId) nofun).trans h.live

lemma activateTimes (nodeId : String) (count : Nat) : (preview.activateTimes nodeId count).InUse := by
  induction count with
  | zero => exact h
  | succ count ih =>
    rw [activateTimes_succ]
    exact ih.activate nodeId

/-- A picker has options, and the one that is selected is one of them. -/
lemma options_of_picks (hpicks : preview.Picks nodeId target options current) :
    0 < options.length ∧ ∀ i ∈ current, i < options.length := by
  obtain ⟨n, hn, -, hinteraction⟩ := hpicks
  rw [h.current.screen] at hn
  exact (Stage.picker_of_mem_screen h.loaded.allRead hn hinteraction).2

lemma hasDistinctKeys_of_picks (hpicks : preview.Picks nodeId target options current) :
    ∀ option ∈ options, option.hasDistinctKeys = true := by
  intro option hoption
  obtain ⟨n, hn, -, hinteraction⟩ := hpicks
  rw [h.current.screen] at hn
  exact Stage.hasDistinctKeys_of_writes h.loaded h.session hn hinteraction ⟨rfl, hoption⟩

/-- The selected option is the one that equals what is kept where the picker writes. -/
lemma current_of_picks (hpicks : preview.Picks nodeId target options current) {value : Json}
    (hvalue : preview.session.value? target = some value)
    (hplain : ∀ rest, value ≠ .string ("@sampleData." ++ rest)) :
    current = options.findIdx? (· == value) := by
  obtain ⟨n, hn, -, hinteraction⟩ := hpicks
  rw [h.current.screen] at hn
  have hshows := Stage.shows_of_value? h.loaded.allRead hn (Node.target?_of_interaction hinteraction)
    hvalue
  rw [Stage.shownFor_eq_self fun rest hrest => absurd hrest (hplain rest)] at hshows
  exact hshows.picked (Stage.picker_of_mem_screen h.loaded.allRead hn hinteraction).1 hinteraction

/-- Activating a picker writes the option after the selected one, or the first one. -/
lemma session_activate (hpicks : preview.Picks nodeId target options current) {place : Nat}
    (hplace : (current.map fun i => (i + 1) % options.length).getD 0 = place) {option : Json}
    (hoption : options[place]? = some option) : (preview.activate nodeId).1.session
      = (Change.write target option preview.activity).1.session := by
  obtain ⟨n, hn, rfl, hinteraction⟩ := hpicks
  have hfound : preview.interaction? n.id = some (.cyclePicker target options current) :=
    (h.current.interaction?_eq h.loaded hn).2.trans hinteraction
  have hactivate : preview.activate n.id = preview.perform (Change.write target option) := by
    simp only [Preview.activate, hfound, Stage.change?, hplace, hoption, Option.map_some,
      Option.getD_some]
  rw [hactivate, perform_of_live h.live]
  rfl

variable (hdistinct : options.Pairwise fun a b => (a == b) = false)
  (hplain : ∀ rest, .string ("@sampleData." ++ rest) ∉ options)
include hdistinct hplain

/-- After an activation the next option is selected, if the picker is still there. -/
theorem next_option (hpicks : preview.Picks nodeId target options current)
    (hnext : (preview.activate nodeId).1.Picks nodeId target options shown) :
    shown = some ((current.getD (options.length - 1) + 1) % options.length) := by
  have hafter := h.activate nodeId
  have hpos := (h.options_of_picks hpicks).1
  have hplace : (current.getD (options.length - 1) + 1) % options.length < options.length :=
    Nat.mod_lt _ hpos
  have hcode : (current.map fun i => (i + 1) % options.length).getD 0
      = (current.getD (options.length - 1) + 1) % options.length := by
    cases current with
    | none => rw [Option.getD_none, Nat.sub_add_cancel hpos, Nat.mod_self]; rfl
    | some i => rfl
  have hoption := List.getElem?_eq_getElem hplace
  generalize (current.getD (options.length - 1) + 1) % options.length = place
    at hcode hplace hoption ⊢
  have hmem : options[place] ∈ options := List.getElem_mem hplace
  -- An equal value may have been there before, so it is this one that is read back.
  obtain ⟨kept, hkept, hequal⟩ := Change.exists_value?_write target
    (h.hasDistinctKeys_of_picks hpicks _ hmem) preview.activity
  rw [← h.session_activate hpicks hcode hoption] at hkept
  have hkeptPlain : ∀ rest, kept ≠ .string ("@sampleData." ++ rest) := by
    rintro rest rfl
    cases hwritten : options[place] with
    | string text =>
      rw [hwritten] at hequal hmem
      exact hplain rest (eq_of_beq (α := String) hequal ▸ hmem)
    | _ => rw [hwritten] at hequal; cases hequal
  rw [hafter.current_of_picks hnext hkept hkeptPlain]
  exact Json.findIdx?_of_equal hdistinct hoption (hafter.session.value? hkept) hequal

/-- After some activations of a picker that stays there, as many options later is selected; without one
before, it is as if it had been the last one. -/
theorem option_after (hpicks : preview.Picks nodeId target options current) {count : Nat}
    (hcount : 1 ≤ count) (hkeeps : ∀ j ≤ count, ∃ shown,
      (preview.activateTimes nodeId j).Picks nodeId target options shown) :
    (preview.activateTimes nodeId count).Picks nodeId target options
      (some ((current.getD (options.length - 1) + count) % options.length)) := by
  induction count, hcount using Nat.le_induction with
  | base =>
    obtain ⟨shown, hshown⟩ := hkeeps 1 le_rfl
    rwa [h.next_option hdistinct hplain hpicks hshown] at hshown
  | succ count hcount ih =>
    obtain ⟨shown, hshown⟩ := hkeeps (count + 1) le_rfl
    have hbefore := ih fun j hj => hkeeps j (Nat.le_succ_of_le hj)
    have hnext := (h.activateTimes nodeId count).next_option hdistinct hplain hbefore
      (activateTimes_succ count ▸ hshown)
    rwa [hnext, Option.getD_some, Nat.mod_add_mod, Nat.add_assoc] at hshown

/-- As many activations as there are options come to each of them once. -/
theorem existsUnique_visit (hpicks : preview.Picks nodeId target options current)
    (hkeeps : ∀ j ≤ options.length, ∃ shown,
      (preview.activateTimes nodeId j).Picks nodeId target options shown) {place : Nat}
    (hplace : place < options.length) : ∃! j, (1 ≤ j ∧ j ≤ options.length)
      ∧ (preview.activateTimes nodeId j).Picks nodeId target options (some place) := by
  obtain ⟨hpos, hcurrent⟩ := h.options_of_picks hpicks
  have hstart : current.getD (options.length - 1) < options.length := by
    cases current with
    | none => exact Nat.sub_lt hpos Nat.one_pos
    | some i => exact hcurrent i rfl
  refine (existsUnique_congr fun j => and_congr_right fun hj => ?_).mp
    (Nat.existsUnique_add_mod hstart hplace)
  have hthen := h.option_after hdistinct hplain hpicks hj.1 fun i hi => hkeeps i (hi.trans hj.2)
  have huse := h.activateTimes nodeId j
  constructor
  · rintro rfl
    exact hthen
  · intro hshown
    exact Option.some_inj.mp (huse.current.picks_unique huse.loaded hthen hshown)

end InUse

/-- After any run before the end, activating a picker goes round its options, if they are different and
refer to no sample data and the picker stays as it is: from an option it comes as far as it is
activated, from none to the first option first. As many times as there are options lead to each of them
once, and back to the one before. -/
theorem cycle_run {stage : Stage} (hloaded : stage.document.Loaded) {canvas : Canvas}
    {first : Preview} (h : mount (some canvas) stage = .ok first) {operations : List Operation}
    (hlive : (first.run operations).1.tornDown = false)
    (hpicks : (first.run operations).1.Picks nodeId target options current)
    (hdistinct : options.Pairwise fun a b => (a == b) = false)
    (hplain : ∀ rest, .string ("@sampleData." ++ rest) ∉ options) {count : Nat}
    (hkeeps : ∀ j ≤ count, ∃ shown,
      ((first.run operations).1.activateTimes nodeId j).Picks nodeId target options shown) :
    let picks := fun j place => ((first.run operations).1.activateTimes nodeId j).Picks nodeId target
      options (some place)
    (∀ i, current = some i → picks count ((i + count) % options.length))
      ∧ (current = none → 1 ≤ count → picks count ((count - 1) % options.length))
      ∧ (count = options.length →
        (∀ place < options.length, ∃! j, (1 ≤ j ∧ j ≤ count) ∧ picks j place)
          ∧ ∀ i, current = some i → picks count i) := by
  intro picks
  have huse := InUse.run hloaded h hlive
  obtain ⟨hpos, hcurrent⟩ := huse.options_of_picks hpicks
  have hround : ∀ i, current = some i → picks count ((i + count) % options.length) := by
    rintro i rfl
    rcases Nat.eq_zero_or_pos count with rfl | hcount
    · rw [Nat.add_zero, Nat.mod_eq_of_lt (hcurrent i rfl)]
      exact hpicks
    · exact huse.option_after hdistinct hplain hpicks hcount hkeeps
  refine ⟨hround, ?_, ?_⟩
  · rintro rfl hcount
    have hlast : options.length - 1 + count = options.length + (count - 1) := by omega
    rw [← Nat.add_mod_left, ← hlast]
    exact huse.option_after hdistinct hplain hpicks hcount hkeeps
  · rintro rfl
    refine ⟨fun place hplace => huse.existsUnique_visit hdistinct hplain hpicks hkeeps hplace,
      fun i hi => ?_⟩
    have hback := hround i hi
    rwa [Nat.add_mod_right, Nat.mod_eq_of_lt (hcurrent i hi)] at hback

/-- Texts that all start otherwise do not refer to sample data. -/
lemma reference_notMem_map {texts : List String} (h : ∀ text ∈ texts, text.toList.head? ≠ some '@')
    (rest : String) : Json.string ("@sampleData." ++ rest) ∉ texts.map Json.string := by
  intro hmem
  obtain ⟨text, htext, heq⟩ := List.mem_map.mp hmem
  exact Json.string_ne_reference (h text htext) rest heq

/-- A picker with three options, from the first one on. -/
theorem cycle_run_settings :
    ∃ document first,
      document.Loaded
        ∧ mount (some {}) { document, options := { now := 0 } } = .ok first
        ∧ (let picks := fun j place =>
            ((first.run [.activate "screen/page/0/3"]).1.activateTimes "screen/page/0/3" j).Picks
              "screen/page/0/3" (.state "size") (["S", "M", "L"].map .string) (some place)
          picks 0 0 ∧ picks 3 ((0 + 3) % 3)
            ∧ ∀ place < 3, ∃! j, (1 ≤ j ∧ j ≤ 3) ∧ picks j place) := by
  obtain ⟨document, first, hload, hmount, hlive, hfirst, hkeeps⟩ : ∃ document first,
      Document.ofJson? Json.settings = .ok document
        ∧ mount (some {}) { document, options := { now := 0 } } = .ok first
        ∧ (first.run [.activate "screen/page/0/3"]).1.tornDown = false
        ∧ ((first.run [.activate "screen/page/0/3"]).1.screen.find? "screen/page/0/3").bind
            Node.pickerTexts?
          = some (.state "size", ["S", "M", "L"], some 0)
        ∧ ∀ j ≤ 3, ∃ shown ∈ [0, 1, 2],
          (((first.run [.activate "screen/page/0/3"]).1.activateTimes "screen/page/0/3" j).screen.find?
            "screen/page/0/3").bind Node.pickerTexts?
          = some (.state "size", ["S", "M", "L"], some shown) :=
    ⟨_, _, rfl, rfl, rfl, by decide +kernel, by decide +kernel⟩
  obtain ⟨hround, -, hvisits⟩ := @cycle_run _ _ _ _ { document, options := { now := 0 } }
    ⟨Json.settings, rfl, hload⟩ _ _ hmount _ hlive (picks_of_pickerTexts? hfirst) (by decide)
    (reference_notMem_map (by decide)) 3 fun j hj => by
      obtain ⟨shown, -, hshown⟩ := hkeeps j hj
      exact ⟨some shown, picks_of_pickerTexts? hshown⟩
  exact ⟨document, first, ⟨Json.settings, rfl, hload⟩, hmount, picks_of_pickerTexts? hfirst,
    hround 0 rfl, (hvisits rfl).1⟩

/-- After the end, a picker stays where it was, although it keeps its different options. -/
theorem cycle_run_settings_ne :
    ∃ document first,
      document.Loaded
        ∧ mount (some {}) { document, options := { now := 0 } } = .ok first
        ∧ (["S", "M", "L"].map Json.string).Pairwise (fun a b => (a == b) = false)
        ∧ (∀ rest, .string ("@sampleData." ++ rest) ∉ ["S", "M", "L"].map Json.string)
        ∧ (let picks := fun j current =>
            ((first.run [.teardown]).1.activateTimes "screen/page/0/3" j).Picks
              "screen/page/0/3" (.state "size") (["S", "M", "L"].map .string) current
          picks 0 none ∧ picks 1 none ∧ ¬picks 1 (some ((1 - 1) % 3))) := by
  obtain ⟨document, first, hload, hmount, hbefore, hafter⟩ : ∃ document first,
      Document.ofJson? Json.settings = .ok document
        ∧ mount (some {}) { document, options := { now := 0 } } = .ok first
        ∧ ((first.run [.teardown]).1.screen.find? "screen/page/0/3").bind Node.pickerTexts?
          = some (.state "size", ["S", "M", "L"], none)
        ∧ (((first.run [.teardown]).1.activateTimes "screen/page/0/3" 1).screen.find?
            "screen/page/0/3").bind Node.pickerTexts?
          = some (.state "size", ["S", "M", "L"], none) :=
    ⟨_, _, rfl, rfl, by decide +kernel, by decide +kernel⟩
  have hloaded : document.Loaded := ⟨Json.settings, rfl, hload⟩
  have hnone := picks_of_pickerTexts? hafter
  refine ⟨document, first, hloaded, hmount, by decide, reference_notMem_map (by decide),
    picks_of_pickerTexts? hbefore, hnone, fun hsome => ?_⟩
  have hcurrent := ((current_of_mount hmount).run [.teardown]).run [.activate "screen/page/0/3"]
  have hstage := (stage_run _ [.activate "screen/page/0/3"]).trans
    (stage_run_of_mount hmount [.teardown])
  cases hcurrent.picks_unique (hstage ▸ hloaded) hnone hsome

end Preview

end Wireframe
