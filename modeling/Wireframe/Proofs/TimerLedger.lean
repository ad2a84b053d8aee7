import Wireframe.Timers
import Mathlib.Data.List.Nodup
import Mathlib.Data.List.TakeWhile
import Mathlib.Tactic.Common

/-!
# What becomes of timers

A ledger goes with timers and books every timer that is scheduled, and every id that is cancelled,
cleared away or handed out. Whatever is done, the books balance: each id was given once, and is
either still pending or booked out in one place (`Ledger.Balanced`). Thus nothing is lost and nothing
comes twice, moving the clock hands out just what is due, and it makes no difference in how many
moves a time is reached (`ledger_after`).
-/

namespace Wireframe

/-- Whether a timer comes before another one: by its time, and by its scheduling at the same time. -/
def Timer.Before {α : Type} (timer other : Timer α) : Prop :=
  timer.due < other.due ∨ timer.due = other.due ∧ timer.id < other.id

namespace Timers

variable {α : Type}

/-- What is done to timers. -/
inductive Operation (α : Type) where
  | schedule (key : α) (delay : Nat)
  | scheduleAt (key : α) (due : Nat)
  | cancel (id : Nat)
  | clear
  | advance (now : Nat)

/-- Timers with what became of all that were scheduled. -/
structure Ledger (α : Type) where
  timers : Timers α := {}
  /-- The latest time that the clock was moved to. -/
  latest : Nat := 0
  /-- The timers as they were asked for, under the ids that were given for them, in order. -/
  scheduled : List (Timer α) := []
  /-- The ids whose timers were pending when they were cancelled. -/
  cancelled : List Nat := []
  /-- The ids whose timers were pending when all timers were cleared. -/
  cleared : List Nat := []
  /-- The timers that were handed out, as they were. -/
  fired : List (Timer α) := []

namespace Ledger

/-- Does something to the timers, and books what came of it. -/
def step (ledger : Ledger α) : Operation α → Ledger α
  | .schedule key delay =>
    let (id, timers) := ledger.timers.schedule key delay
    { ledger with
      timers
      scheduled := ledger.scheduled ++ [⟨id, later ledger.latest delay, key⟩] }
  | .scheduleAt key due =>
    let (id, timers) := ledger.timers.scheduleAt key due
    { ledger with timers, scheduled := ledger.scheduled ++ [⟨id, due, key⟩] }
  | .cancel id =>
    let (found, timers) := ledger.timers.cancel id
    { ledger with timers, cancelled := ledger.cancelled ++ if found then [id] else [] }
  | .clear =>
    { ledger with
      timers := ledger.timers.clear
      cleared := ledger.cleared ++ ledger.timers.pending.map Timer.id }
  | .advance now =>
    let (due, timers) := ledger.timers.advance now
    { ledger with timers, latest := max ledger.latest now, fired := ledger.fired ++ due }

/-- The books after some operations on timers that were never used before. -/
def after (operations : List (Operation α)) : Ledger α :=
  operations.foldl step {}

/-- Whether an id was not booked out in any way. -/
def Open (ledger : Ledger α) (id : Nat) : Prop :=
  id ∉ ledger.cancelled ∧ id ∉ ledger.cleared ∧ id ∉ ledger.fired.map Timer.id

/-- The ids by what became of them: pending, cancelled, cleared away or handed out. -/
def entries (ledger : Ledger α) : List Nat :=
  ledger.timers.pending.map Timer.id
    ++ (ledger.cancelled ++ (ledger.cleared ++ ledger.fired.map Timer.id))

/-- Whether the books agree with the timers: the ids count the timers that were scheduled, each of
them has one entry, and what is pending or was handed out is as it was scheduled. -/
structure Balanced (ledger : Ledger α) : Prop where
  clock : ledger.timers.clock = ledger.latest
  ids : ledger.scheduled.map Timer.id = List.range ledger.timers.nextId
  entries : ledger.entries.Perm (ledger.scheduled.map Timer.id)
  kept : ledger.timers.pending ++ ledger.fired ⊆ ledger.scheduled
  ordered : ledger.timers.pending.Pairwise Timer.Before

end Ledger

/-! ### Scheduling -/

lemma perm_place (timer : Timer α) (pending : List (Timer α)) :
    (place timer pending).Perm (timer :: pending) := by
  induction pending with
  | nil => exact .refl _
  | cons other rest ih =>
    rw [place]
    split
    · exact (ih.cons other).trans (.swap timer other rest)
    · exact .refl _

/-- A timer that is scheduled last comes after those that are due no later. -/
lemma pairwise_place {timer : Timer α} {pending : List (Timer α)}
    (hlast : ∀ other ∈ pending, other.id < timer.id) (h : pending.Pairwise Timer.Before) :
    (place timer pending).Pairwise Timer.Before := by
  induction pending with
  | nil => exact List.pairwise_singleton _ _
  | cons other rest ih =>
    obtain ⟨hother, hrest⟩ := List.pairwise_cons.mp h
    obtain ⟨hid, hlast⟩ := List.forall_mem_cons.mp hlast
    rw [place]
    split
    · next hdue =>
      refine List.pairwise_cons.mpr ⟨fun later hlater => ?_, ih hlast hrest⟩
      rcases List.mem_cons.mp ((perm_place timer rest).mem_iff.mp hlater) with rfl | hlater
      · rcases Nat.lt_or_eq_of_le hdue with hlt | heq
        · exact .inl hlt
        · exact .inr ⟨heq, hid⟩
      · exact hother later hlater
    · next hdue =>
      have hlt : timer.due < other.due := Nat.lt_of_not_le hdue
      refine List.pairwise_cons.mpr ⟨List.forall_mem_cons.mpr ⟨.inl hlt, ?_⟩, h⟩
      intro later hlater
      rcases hother later hlater with hafter | ⟨heq, -⟩
      · exact .inl (hlt.trans hafter)
      · exact .inl (heq ▸ hlt)

/-! ### Cancelling -/

lemma cancel_fst_iff {timers : Timers α} {id : Nat} :
    (timers.cancel id).1 = true ↔ id ∈ timers.pending.map Timer.id := by
  simp [cancel]

lemma perm_cancel {timers : Timers α} {id : Nat} (h : (timers.cancel id).1 = true) :
    (id :: (timers.cancel id).2.pending.map Timer.id).Perm (timers.pending.map Timer.id) := by
  obtain ⟨timer, hmem, hid⟩ := List.any_eq_true.mp h
  obtain ⟨found, before, rest, -, hfound, hpending, herase⟩ :=
    List.exists_of_eraseP (p := fun timer => decide (timer.id = id)) hmem hid
  have hleft : (timers.cancel id).2.pending = before ++ rest := herase
  rw [hleft, hpending, List.map_append, List.map_append, List.map_cons, of_decide_eq_true hfound]
  exact List.perm_middle.symm

/-- Cancelling what is not pending leaves the timers as they are. -/
lemma cancel_of_not_fst {timers : Timers α} {id : Nat} (h : ¬(timers.cancel id).1 = true) :
    (timers.cancel id).2 = timers := by
  have hnone : ∀ timer ∈ timers.pending, ¬decide (timer.id = id) = true :=
    fun timer hmem hid => h (List.any_eq_true.mpr ⟨timer, hmem, hid⟩)
  rw [cancel, List.eraseP_of_forall_not hnone]

/-! ### Moving the clock -/

lemma advance_append (timers : Timers α) (now : Nat) :
    (timers.advance now).1 ++ (timers.advance now).2.pending = timers.pending :=
  List.takeWhile_append_dropWhile

lemma mem_takeWhile_due {pending : List (Timer α)} (h : pending.Pairwise Timer.Before)
    {clock : Nat} {timer : Timer α} :
    timer ∈ pending.takeWhile (·.due ≤ clock) ↔ timer ∈ pending ∧ timer.due ≤ clock := by
  induction pending with
  | nil => simp
  | cons first rest ih =>
    obtain ⟨hfirst, hrest⟩ := List.pairwise_cons.mp h
    by_cases hdue : first.due ≤ clock
    · rw [List.takeWhile_cons_of_pos (by simpa using hdue), List.mem_cons, List.mem_cons, ih hrest]
      constructor
      · rintro (rfl | ⟨hmem, hle⟩)
        · exact ⟨.inl rfl, hdue⟩
        · exact ⟨.inr hmem, hle⟩
      · rintro ⟨rfl | hmem, hle⟩
        · exact .inl rfl
        · exact .inr ⟨hmem, hle⟩
    · -- the first timer is not due, so that no later one is
      rw [List.takeWhile_cons_of_neg (by simpa using hdue)]
      refine iff_of_false List.not_mem_nil ?_
      rintro ⟨hmem, hle⟩
      rcases List.mem_cons.mp hmem with rfl | hmem
      · exact hdue hle
      · rcases hfirst timer hmem with hlt | ⟨heq, -⟩
        · exact hdue (hlt.le.trans hle)
        · exact hdue (heq ▸ hle)

lemma mem_advance {timers : Timers α} (h : timers.pending.Pairwise Timer.Before) {now : Nat}
    {timer : Timer α} :
    timer ∈ (timers.advance now).1
      ↔ timer ∈ timers.pending ∧ timer.due ≤ max timers.clock now :=
  mem_takeWhile_due h

lemma takeWhile_dropWhile_of_imp {β : Type} {p q : β → Bool} (h : ∀ b, p b = true → q b = true)
    (items : List β) :
    items.takeWhile p ++ (items.dropWhile p).takeWhile q = items.takeWhile q
      ∧ (items.dropWhile p).dropWhile q = items.dropWhile q := by
  induction items with
  | nil => exact ⟨rfl, rfl⟩
  | cons item items ih =>
    by_cases hp : p item = true
    · simpa [hp, h item hp] using ih
    · simp [hp]

/-- Two moves of the clock are one to the later time. -/
lemma advance_advance (timers : Timers α) (first second : Nat) :
    ((timers.advance first).1 ++ ((timers.advance first).2.advance second).1,
        ((timers.advance first).2.advance second).2)
      = timers.advance (max first second) := by
  have hsooner : ∀ timer : Timer α, decide (timer.due ≤ max timers.clock first) = true →
      decide (timer.due ≤ max (max timers.clock first) second) = true := by
    simp only [decide_eq_true_eq]
    exact fun timer hdue => hdue.trans (Nat.le_max_left _ _)
  obtain ⟨htake, hdrop⟩ := takeWhile_dropWhile_of_imp hsooner timers.pending
  have htimers : ((timers.advance first).2.advance second).2
      = { timers with
          clock := max (max timers.clock first) second
          pending := timers.pending.dropWhile
            (·.due ≤ max (max timers.clock first) second) } :=
    congrArg (Timers.mk _ _) hdrop
  rw [htimers]
  rw [advance.eq_1 (max first second), ← Nat.max_assoc]
  exact congrArg (·, _) htake

namespace Ledger

/-! ### One operation -/

variable {ledger : Ledger α}

/-- Ids that are given later are larger. -/
lemma Balanced.id_lt (h : ledger.Balanced) :
    ∀ timer ∈ ledger.timers.pending, timer.id < ledger.timers.nextId := by
  intro timer hmem
  have hid : timer.id ∈ ledger.scheduled.map Timer.id :=
    List.mem_map_of_mem (h.kept (List.mem_append_left _ hmem))
  rw [h.ids] at hid
  exact List.mem_range.mp hid

lemma Balanced.scheduleAt (h : ledger.Balanced) (key : α) (due : Nat) :
    (ledger.step (.scheduleAt key due)).Balanced where
  clock := h.clock
  ids := by simp [step, Timers.scheduleAt, h.ids, List.range_succ]
  entries := by
    refine List.perm_iff_count.mpr fun id => ?_
    have hplaced := ((perm_place ⟨ledger.timers.nextId, due, key⟩ ledger.timers.pending).map
      Timer.id).count_eq id
    have hentries := h.entries.count_eq id
    simp only [Ledger.entries, step, Timers.scheduleAt, List.map_append, List.map_cons, List.map_nil,
      List.count_append, List.count_cons, List.count_nil] at hplaced hentries ⊢
    omega
  kept := by
    intro timer hmem
    rcases List.mem_append.mp hmem with hpending | hfired
    · rcases List.mem_cons.mp ((perm_place _ _).mem_iff.mp hpending) with rfl | hpending
      · exact List.mem_append_right _ (List.mem_singleton_self _)
      · exact List.mem_append_left _ (h.kept (List.mem_append_left _ hpending))
    · exact List.mem_append_left _ (h.kept (List.mem_append_right _ hfired))
  ordered := pairwise_place h.id_lt h.ordered

/-- A delay counts from the latest time that the clock was moved to. -/
lemma Balanced.step_schedule (h : ledger.Balanced) (key : α) (delay : Nat) :
    ledger.step (.schedule key delay)
      = ledger.step (.scheduleAt key (later ledger.latest delay)) := by
  simp only [step, Timers.schedule, h.clock]

lemma Balanced.cancel (h : ledger.Balanced) (id : Nat) : (ledger.step (.cancel id)).Balanced := by
  by_cases hfound : (ledger.timers.cancel id).1 = true
  · have hsub : (ledger.timers.cancel id).2.pending.Sublist ledger.timers.pending :=
      List.eraseP_sublist
    refine ⟨h.clock, h.ids, ?_, fun timer hmem => h.kept ((hsub.append (.refl _)).subset hmem),
      h.ordered.sublist hsub⟩
    refine List.perm_iff_count.mpr fun other => ?_
    have hmoved := (perm_cancel hfound).count_eq other
    have hentries := h.entries.count_eq other
    simp only [Ledger.entries, step, hfound, if_true, List.count_append, List.count_cons,
      List.count_nil] at hmoved hentries ⊢
    omega
  · have hsame : ledger.step (.cancel id) = ledger := by
      simp [step, hfound, cancel_of_not_fst hfound]
    rw [hsame]
    exact h

lemma Balanced.clear (h : ledger.Balanced) : (ledger.step .clear).Balanced where
  clock := h.clock
  ids := h.ids
  entries := by
    refine List.perm_iff_count.mpr fun id => ?_
    have hentries := h.entries.count_eq id
    simp only [Ledger.entries, step, Timers.clear, List.map_nil, List.count_append,
      List.count_nil] at hentries ⊢
    omega
  kept := fun _ hmem => h.kept (List.mem_append_right _ hmem)
  ordered := .nil

lemma Balanced.advance (h : ledger.Balanced) (now : Nat) :
    (ledger.step (.advance now)).Balanced where
  clock := congrArg (max · now) h.clock
  ids := h.ids
  entries := by
    refine List.perm_iff_count.mpr fun id => ?_
    have hsplit := congrArg (fun timers => (timers.map Timer.id).count id)
      (ledger.timers.advance_append now)
    have hentries := h.entries.count_eq id
    simp only [Ledger.entries, step, List.map_append, List.count_append] at hsplit hentries ⊢
    omega
  kept := by
    intro timer hmem
    have hsplit := ledger.timers.advance_append now
    refine h.kept (List.mem_append.mpr ?_)
    rw [← hsplit]
    simp only [step, List.mem_append] at hmem ⊢
    tauto
  ordered := h.ordered.sublist (List.dropWhile_sublist _)

theorem Balanced.step (h : ledger.Balanced) (operation : Operation α) :
    (ledger.step operation).Balanced := by
  cases operation with
  | schedule key delay =>
    rw [h.step_schedule]
    exact h.scheduleAt key _
  | scheduleAt key due => exact h.scheduleAt key due
  | cancel id => exact h.cancel id
  | clear => exact h.clear
  | advance now => exact h.advance now

lemma balanced_new : ({} : Ledger α).Balanced :=
  ⟨rfl, rfl, .refl _, List.Subset.refl _, .nil⟩

theorem balanced_after (operations : List (Operation α)) : (after operations).Balanced := by
  suffices hfrom : ∀ ledger : Ledger α, ledger.Balanced →
      (operations.foldl Ledger.step ledger).Balanced from hfrom _ balanced_new
  induction operations with
  | nil => exact fun _ h => h
  | cons operation operations ih => exact fun ledger h => ih _ (h.step operation)

/-! ### What the books say -/

lemma Balanced.nodup_entries (h : ledger.Balanced) : ledger.entries.Nodup := by
  rw [h.entries.nodup_iff, h.ids]
  exact List.nodup_range

/-- The ids that are pending are those that were given and not booked out. -/
lemma Balanced.mem_ids_iff (h : ledger.Balanced) {id : Nat} :
    id ∈ ledger.timers.pending.map Timer.id
      ↔ id ∈ ledger.scheduled.map Timer.id ∧ ledger.Open id := by
  have hopen : ledger.Open id
      ↔ id ∉ ledger.cancelled ++ (ledger.cleared ++ ledger.fired.map Timer.id) := by
    simp only [Open, List.mem_append, not_or]
  rw [hopen, ← h.entries.mem_iff, Ledger.entries, List.mem_append]
  constructor
  · exact fun hmem => ⟨.inl hmem, List.disjoint_of_nodup_append h.nodup_entries hmem⟩
  · rintro ⟨hmem | hmem, hopen⟩
    · exact hmem
    · exact absurd hmem hopen

/-- The timers that are pending are those that were scheduled and not booked out. -/
lemma Balanced.mem_pending_iff (h : ledger.Balanced) {timer : Timer α} :
    timer ∈ ledger.timers.pending ↔ timer ∈ ledger.scheduled ∧ ledger.Open timer.id := by
  constructor
  · intro hmem
    exact ⟨h.kept (List.mem_append_left _ hmem),
      (h.mem_ids_iff.mp (List.mem_map_of_mem hmem)).2⟩
  · rintro ⟨hmem, hopen⟩
    obtain ⟨other, hother, hid⟩ :=
      List.mem_map.mp (h.mem_ids_iff.mpr ⟨List.mem_map_of_mem hmem, hopen⟩)
    -- an id was given once, so the timer that is pending under it is the one that was scheduled
    have hnodup : (ledger.scheduled.map Timer.id).Nodup := by
      rw [h.ids]
      exact List.nodup_range
    rw [← List.inj_on_of_nodup_map hnodup (h.kept (List.mem_append_left _ hother)) hmem hid]
    exact hother

end Ledger

/-- After any use of new timers: no id was given twice, and each is either pending, or cancelled,
cleared away or handed out, once and in one of these ways. What is pending or was handed out is as it
was scheduled. Cancelling finds just what is pending. Moving the clock hands out what is pending and
due at the latest time it was moved to, in the order of times and of scheduling; and two moves hand
out the same as one to the later time, and leave the same timers. -/
theorem ledger_after (operations : List (Operation α)) :
    let ledger := Ledger.after operations
    ledger.scheduled.map Timer.id = List.range ledger.scheduled.length
      ∧ ledger.entries.Nodup
      ∧ ledger.entries.Perm (ledger.scheduled.map Timer.id)
      ∧ ledger.timers.pending ++ ledger.fired ⊆ ledger.scheduled
      ∧ (∀ id, (ledger.timers.cancel id).1 = true
        ↔ id ∈ ledger.scheduled.map Timer.id ∧ ledger.Open id)
      ∧ (∀ now timer, timer ∈ (ledger.timers.advance now).1
        ↔ (timer ∈ ledger.scheduled ∧ ledger.Open timer.id)
          ∧ timer.due ≤ max ledger.latest now)
      ∧ (∀ now, (ledger.timers.advance now).1.Pairwise Timer.Before)
      ∧ ∀ first second,
        ((ledger.timers.advance first).1 ++ ((ledger.timers.advance first).2.advance second).1,
            ((ledger.timers.advance first).2.advance second).2)
          = ledger.timers.advance (max first second) := by
  intro ledger
  have h : ledger.Balanced := Ledger.balanced_after operations
  refine ⟨?_, h.nodup_entries, h.entries, h.kept, fun id => ?_, fun now timer => ?_,
    fun now => ?_, ledger.timers.advance_advance⟩
  · have hlength := congrArg List.length h.ids
    rw [List.length_map, List.length_range] at hlength
    rw [hlength]
    exact h.ids
  · rw [cancel_fst_iff, h.mem_ids_iff]
  · rw [mem_advance h.ordered, h.mem_pending_iff, h.clock]
  · exact h.ordered.sublist (List.takeWhile_sublist _)

/-- A timer that was cancelled is cancelled once, and those that are due come by their times. -/
example :
    (Ledger.after [.schedule "b" 200, .schedule "a" 100, .scheduleAt "c" 150, .cancel 2, .cancel 2,
      .advance 250]).fired = [⟨1, 100, "a"⟩, ⟨0, 200, "b"⟩] := by
  decide

end Timers

end Wireframe
