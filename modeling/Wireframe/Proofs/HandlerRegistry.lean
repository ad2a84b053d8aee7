import Wireframe.Proofs.HandlersByType
import Mathlib.Data.Set.Card
import Mathlib.Tactic.Common

/-!
# Registered handlers

Whatever is done to a channel, its handlers are those that were registered and not removed since, in the
order of their registration (`Channel.Registry.Records`). An id is given once, so removing a handler
reaches no other one, and what is removed stays removed (`Channel.registry_after`).
-/

namespace Wireframe.Channel

/-! ### Histories -/

namespace Operation

/-- The type of messages that a handler is registered for. -/
def kind? : Operation → Option String
  | subscribe kind => some kind
  | _ => none

/-- Whether a handler is removed, by itself or with all the others. -/
def Removes (subscription : Subscription) : Operation → Prop
  | unsubscribe other => other = subscription
  | clear => True
  | _ => False

end Operation

/-- The subscriptions that operations gave, in order: their ids count them. -/
def subscriptions (operations : List Operation) : List Subscription :=
  (operations.filterMap Operation.kind?).mapIdx fun id kind => { kind, id }

/-- Whether a subscription was given and its handler was not removed since. -/
def Live (operations : List Operation) (subscription : Subscription) : Prop :=
  ∃ before later, operations = before ++ .subscribe subscription.kind :: later
    ∧ (subscriptions before).length = subscription.id
    ∧ ∀ operation ∈ later, ¬operation.Removes subscription

variable {operations : List Operation} {operation : Operation} {subscription : Subscription}

lemma subscriptions_concat (operations : List Operation) (operation : Operation) :
    subscriptions (operations ++ [operation]) = subscriptions operations
      ++ (operation.kind?.map fun kind => ⟨kind, (subscriptions operations).length⟩).toList := by
  simp only [subscriptions, List.filterMap_append, List.mapIdx_append, List.length_mapIdx]
  cases h : operation.kind? <;> simp [h]

lemma subscriptions_concat_of_kind?_eq_none (h : operation.kind? = none) :
    subscriptions (operations ++ [operation]) = subscriptions operations := by
  rw [subscriptions_concat, h]
  exact List.append_nil _

lemma length_subscriptions_le_append (operations more : List Operation) :
    (subscriptions operations).length ≤ (subscriptions (operations ++ more)).length := by
  simp [subscriptions]

lemma ids_subscriptions (operations : List Operation) :
    (subscriptions operations).map Subscription.id = List.range (subscriptions operations).length := by
  induction operations using List.reverseRecOn with
  | nil => rfl
  | append_singleton operations operation ih =>
    rw [subscriptions_concat]
    cases operation.kind? with
    | none => simpa using ih
    | some kind => simp [ih, List.range_succ]

lemma pairwise_subscriptions (operations : List Operation) :
    (subscriptions operations).Pairwise (·.id < ·.id) := by
  rw [← List.pairwise_map (f := Subscription.id) (R := (· < ·)), ids_subscriptions]
  exact List.pairwise_lt_range

lemma id_lt_of_mem_subscriptions (h : subscription ∈ subscriptions operations) :
    subscription.id < (subscriptions operations).length := by
  have hid := List.mem_map_of_mem (f := Subscription.id) h
  rw [ids_subscriptions] at hid
  exact List.mem_range.mp hid

/-- The last operation gives a subscription, or it leaves one that is live unless it removes it. -/
lemma live_concat : Live (operations ++ [operation]) subscription
    ↔ Live operations subscription ∧ ¬operation.Removes subscription
      ∨ operation = .subscribe subscription.kind
        ∧ (subscriptions operations).length = subscription.id := by
  constructor
  · rintro ⟨before, later, heq, hid, hkept⟩
    rcases List.eq_nil_or_concat later with rfl | ⟨later, last, rfl⟩
    · obtain ⟨rfl, hlast⟩ := List.append_inj' heq rfl
      exact .inr ⟨List.head_eq_of_cons_eq hlast, hid⟩
    · rw [List.concat_eq_append, ← List.cons_append, ← List.append_assoc] at heq
      obtain ⟨rfl, hlast⟩ := List.append_inj' heq rfl
      obtain rfl := List.head_eq_of_cons_eq hlast
      rw [List.concat_eq_append] at hkept
      refine .inl ⟨⟨before, later, rfl, hid, fun other hother => ?_⟩, ?_⟩
      · exact hkept other (List.mem_append_left _ hother)
      · exact hkept operation (List.mem_append_right _ (List.mem_singleton_self _))
  · rintro (⟨⟨before, later, rfl, hid, hkept⟩, hlast⟩ | ⟨rfl, hid⟩)
    · refine ⟨before, later ++ [operation], by simp, hid, fun other hother => ?_⟩
      rcases List.mem_append.mp hother with hother | hother
      · exact hkept other hother
      · rwa [List.mem_singleton.mp hother]
    · exact ⟨operations, [], rfl, hid, by simp⟩

/-- Once a subscription was given and is not live, it never is again. -/
lemma not_live_append (hgiven : subscription ∈ subscriptions operations)
    (h : ¬Live operations subscription) (more : List Operation) :
    ¬Live (operations ++ more) subscription := by
  induction more using List.reverseRecOn with
  | nil => rwa [List.append_nil]
  | append_singleton more operation ih =>
    rw [← List.append_assoc, live_concat, not_or]
    refine ⟨fun hlive => ih hlive.1, fun hagain => ?_⟩
    -- the ids that are given from now on are larger
    have hlt := id_lt_of_mem_subscriptions hgiven
    have hle := length_subscriptions_le_append operations more
    omega

/-! ### What a registry holds -/

namespace Registry

/-- Whether a registry is what operations make of a new one: it counts the subscriptions that they
gave, and holds those that are live, in order. -/
structure Records (registry : Registry) (operations : List Operation) : Prop where
  nextId : registry.nextId = (subscriptions operations).length
  sublist : registry.handlers.Sublist (subscriptions operations)
  mem_iff : ∀ subscription, subscription ∈ registry.handlers ↔ Live operations subscription

variable {registry : Registry}

lemma Records.subscribe (h : registry.Records operations) (kind : String) :
    (registry.apply (.subscribe kind)).Records (operations ++ [.subscribe kind]) where
  nextId := by
    rw [subscriptions_concat, List.length_append, ← h.nextId]
    rfl
  sublist := by
    rw [subscriptions_concat, ← h.nextId]
    exact h.sublist.append (.refl _)
  mem_iff subscription := by
    have hnew : subscription ∈ [(⟨kind, registry.nextId⟩ : Subscription)]
        ↔ Operation.subscribe kind = .subscribe subscription.kind
          ∧ (subscriptions operations).length = subscription.id := by
      obtain ⟨kind', id⟩ := subscription
      rw [List.mem_singleton, h.nextId, Subscription.mk.injEq, Operation.subscribe.injEq]
      exact and_congr eq_comm eq_comm
    rw [live_concat, ← h.mem_iff, ← hnew]
    simp only [apply, List.mem_append, Operation.Removes, not_false_eq_true, and_true]

/-- An operation that gives no subscription can only take handlers away. -/
lemma Records.concat_of_kind?_eq_none (h : registry.Records operations)
    (hkind : operation.kind? = none) {handlers : List Subscription}
    (hsub : handlers.Sublist registry.handlers)
    (hmem : ∀ subscription, subscription ∈ handlers
      ↔ subscription ∈ registry.handlers ∧ ¬operation.Removes subscription) :
    Records { registry with handlers } (operations ++ [operation]) where
  nextId := by
    rw [subscriptions_concat_of_kind?_eq_none hkind]
    exact h.nextId
  sublist := by
    rw [subscriptions_concat_of_kind?_eq_none hkind]
    exact hsub.trans h.sublist
  mem_iff subscription := by
    have hgives : operation ≠ .subscribe subscription.kind := by
      rintro rfl
      cases hkind
    rw [live_concat, ← h.mem_iff, hmem, or_iff_left fun hgiven => hgives hgiven.1]

lemma Records.unsubscribe (h : registry.Records operations) (removed : Subscription) :
    (registry.apply (.unsubscribe removed)).Records (operations ++ [.unsubscribe removed]) := by
  refine h.concat_of_kind?_eq_none rfl List.filter_sublist fun subscription => ?_
  rw [List.mem_filter, decide_eq_true_iff, Operation.Removes, ne_comm]

lemma Records.clear (h : registry.Records operations) :
    (registry.apply .clear).Records (operations ++ [.clear]) := by
  refine h.concat_of_kind?_eq_none rfl (List.nil_sublist _) fun subscription => ?_
  simp [Operation.Removes]

lemma Records.receive (h : registry.Records operations) (sender : String) (data : Json) :
    (registry.apply (.receive sender data)).Records (operations ++ [.receive sender data]) := by
  refine h.concat_of_kind?_eq_none rfl (.refl _) fun subscription => ?_
  simp [Operation.Removes]

theorem records_after (operations : List Operation) : (after operations).Records operations := by
  induction operations using List.reverseRecOn with
  | nil => exact ⟨rfl, .refl _, by simp [after, Live]⟩
  | append_singleton operations operation ih =>
    rw [after, List.foldl_append, ← after]
    cases operation with
    | subscribe kind => exact ih.subscribe kind
    | unsubscribe subscription => exact ih.unsubscribe subscription
    | clear => exact ih.clear
    | receive sender data => exact ih.receive sender data

/-- As many handlers are there as subscriptions are live. -/
lemma Records.length_handlers (h : registry.Records operations) :
    registry.handlers.length = {subscription | Live operations subscription}.ncard := by
  have hnodup : registry.handlers.Nodup :=
    ((pairwise_subscriptions operations).sublist h.sublist).imp fun hlt =>
      ne_of_apply_ne Subscription.id hlt.ne
  have hset : {subscription | Live operations subscription} = ↑registry.handlers.toFinset := by
    ext subscription
    simp [h.mem_iff]
  rw [hset, Set.ncard_coe_finset, List.toFinset_card_of_nodup hnodup]

lemma Records.pairwise_idsOf (h : registry.Records operations) (kind : String) :
    (idsOf kind registry.handlers).Pairwise (· < ·) :=
  List.pairwise_map.mpr
    ((pairwise_subscriptions operations).sublist (List.filter_sublist.trans h.sublist))

end Registry

/-! ### What a channel does -/

lemma trustedOrigin_apply (channel : Channel) (operation : Operation) :
    (channel.apply operation).trustedOrigin = channel.trustedOrigin := by
  cases operation with
  | unsubscribe subscription => exact channel.trustedOrigin_unsubscribe subscription
  | _ => rfl

lemma trustedOrigin_after (origin : String) (operations : List Operation) :
    (after origin operations).trustedOrigin = origin := by
  induction operations using List.reverseRecOn with
  | nil => rfl
  | append_singleton operations operation ih =>
    rw [after, List.foldl_append, ← after]
    exact (trustedOrigin_apply _ operation).trans ih

/-- Removing finds a handler just if its subscription is live. -/
lemma unsubscribe_after_fst_iff (origin : String) (operations : List Operation)
    (subscription : Subscription) :
    ((after origin operations).unsubscribe subscription).1 = true
      ↔ Live operations subscription := by
  rw [(refines_after origin operations).unsubscribe_fst_iff,
    (Registry.records_after operations).mem_iff]

lemma mem_handlersOf_after (origin : String) (operations : List Operation) {kind : String} {id : Nat} :
    id ∈ (after origin operations).handlersOf kind ↔ Live operations ⟨kind, id⟩ := by
  rw [(refines_after origin operations).handlersOf, mem_idsOf,
    (Registry.records_after operations).mem_iff]

/-- A subscription that is given is none of those that were given before. -/
lemma subscribe_after_notMem (origin : String) (operations : List Operation) (kind : String) :
    ((after origin operations).subscribe kind).1 ∉ subscriptions operations := by
  intro hmem
  have hid : (after origin operations).nextId = (subscriptions operations).length :=
    (refines_after origin operations).nextId.trans (Registry.records_after operations).nextId
  exact absurd (id_lt_of_mem_subscriptions hmem) (hid ▸ Nat.lt_irrefl _)

/-- What is removed stays removed, whatever is done afterwards. -/
lemma unsubscribe_after_unsubscribe (origin : String) (h : subscription ∈ subscriptions operations)
    (more : List Operation) :
    ((after origin (operations ++ .unsubscribe subscription :: more)).unsubscribe subscription).1
      = false := by
  have hgiven : subscription ∈ subscriptions (operations ++ [.unsubscribe subscription]) := by
    rwa [subscriptions_concat_of_kind?_eq_none rfl]
  have hgone : ¬Live (operations ++ [.unsubscribe subscription]) subscription := by
    rw [live_concat]
    simp [Operation.Removes]
  rw [← Bool.not_eq_true, unsubscribe_after_fst_iff, List.append_cons]
  exact not_live_append hgiven hgone more

/-- After any use of a channel its handlers are those whose subscriptions are live, each once, by the
types of their messages and in the order of their registration. A message that is accepted is handed
to those of its type in this order, and no other message is handed out. A subscription that is given is
a new one. Removing finds a handler just if it is still registered, takes away that one only, and never
finds it again. -/
theorem registry_after (origin : String) (operations : List Operation) :
    let channel := after origin operations
    let registry := Registry.after operations
    (channel.Refines registry
        ∧ registry.handlers.Sublist (subscriptions operations)
        ∧ (∀ subscription, subscription ∈ registry.handlers ↔ Live operations subscription)
        ∧ channel.handlerCount = {subscription | Live operations subscription}.ncard)
      ∧ (∀ sender data envelope, sender = origin → Envelope.ofJson? data = some envelope →
        ∃ delivery, channel.receive? sender data = some delivery ∧ delivery.envelope = envelope
          ∧ delivery.handlers.Pairwise (· < ·)
          ∧ ∀ id, id ∈ delivery.handlers ↔ Live operations ⟨envelope.kind, id⟩)
      ∧ (∀ sender data, sender ≠ origin ∨ Envelope.ofJson? data = none →
        channel.receive? sender data = none)
      ∧ (∀ kind, (channel.subscribe kind).1.kind = kind
        ∧ (channel.subscribe kind).1 ∉ subscriptions operations)
      ∧ ∀ subscription,
        ((channel.unsubscribe subscription).1 = true ↔ Live operations subscription)
          ∧ (channel.unsubscribe subscription).2.Refines
            { registry with handlers := registry.handlers.filter (· ≠ subscription) }
          ∧ (∀ kind,
            ((channel.unsubscribe subscription).2.handlersOf kind).Sublist (channel.handlersOf kind)
              ∧ ∀ id, id ∈ (channel.unsubscribe subscription).2.handlersOf kind
                ↔ Live operations ⟨kind, id⟩ ∧ ⟨kind, id⟩ ≠ subscription)
          ∧ (subscription ∈ subscriptions operations → ∀ more,
            ((after origin (operations ++ .unsubscribe subscription :: more)).unsubscribe
              subscription).1 = false) := by
  intro channel registry
  have hrefines : channel.Refines registry := refines_after origin operations
  have hrecords : registry.Records operations := Registry.records_after operations
  have horigin : channel.trustedOrigin = origin := trustedOrigin_after origin operations
  refine ⟨⟨hrefines, hrecords.sublist, hrecords.mem_iff,
    hrefines.handlerCount_eq.trans hrecords.length_handlers⟩, ?_, ?_, fun kind =>
    ⟨rfl, subscribe_after_notMem origin operations kind⟩, fun subscription =>
    ⟨unsubscribe_after_fst_iff origin operations subscription, hrefines.unsubscribe subscription,
      fun kind => ⟨?_, fun id => ?_⟩,
      fun hgiven more => unsubscribe_after_unsubscribe origin hgiven more⟩⟩
  · intro sender data envelope hsender henvelope
    refine ⟨⟨envelope, channel.handlersOf envelope.kind⟩, ?_, rfl, ?_,
      fun id => mem_handlersOf_after origin operations⟩
    · rw [receive?, accept?, horigin, if_pos hsender, henvelope, Option.map_some]
    · rw [hrefines.handlersOf]
      exact hrecords.pairwise_idsOf _
  · intro sender data hrefused
    have haccept : channel.accept? sender data = none := by
      rw [accept?, horigin, ite_eq_right_iff]
      exact fun hsender => hrefused.resolve_left (not_not_intro hsender)
    rw [receive?, haccept, Option.map_none]
  · rw [hrefines.handlersOf, (hrefines.unsubscribe subscription).handlersOf]
    exact (List.filter_sublist.filter _).map _
  · rw [(hrefines.unsubscribe subscription).handlersOf, mem_idsOf, Registry.apply, List.mem_filter,
      decide_eq_true_iff, hrecords.mem_iff]

/-- Of two handlers of one type the first is removed, all are removed, and one is registered again. -/
theorem registry_after_navigate :
    ∃ (operations : List Operation) (data : Json) (envelope : Envelope) (first again : Subscription),
      operations = [.subscribe "navigate", .subscribe "resize", .subscribe "navigate"]
        ∧ data = .object [("source", .string "wirevana"), ("type", .string "navigate")]
        ∧ Envelope.ofJson? data = some envelope
        ∧ first = ⟨"navigate", 0⟩ ∧ again = ⟨"navigate", 3⟩
        ∧ first ∈ subscriptions operations
        ∧ (∃ delivery, (after "host" operations).receive? "host" data = some delivery
          ∧ delivery.handlers = [0, 2])
        ∧ (after "host" operations).receive? "elsewhere" data = none
        ∧ ((after "host" operations).unsubscribe first).1 = true
        ∧ (after "host" (operations ++ [.unsubscribe first, .clear, .subscribe "navigate"])).handlers
          = [(again.kind, [again.id])]
        ∧ ((after "host" (operations
            ++ [.unsubscribe first, .clear, .subscribe "navigate"])).unsubscribe first).1 = false := by
  let operations : List Operation :=
    [.subscribe "navigate", .subscribe "resize", .subscribe "navigate"]
  let data : Json := .object [("source", .string "wirevana"), ("type", .string "navigate")]
  obtain ⟨-, hreceived, hrefused, -, hremoved⟩ := registry_after "host" operations
  obtain ⟨delivery, hdelivery, -⟩ := hreceived "host" data ⟨"navigate", none⟩ rfl rfl
  have hgiven : ⟨"navigate", 0⟩ ∈ subscriptions operations := by decide
  refine ⟨operations, data, ⟨"navigate", none⟩, ⟨"navigate", 0⟩, ⟨"navigate", 3⟩, rfl, rfl, rfl, rfl,
    rfl, hgiven, ⟨delivery, hdelivery, ?_⟩, hrefused "elsewhere" data (.inl (by decide)), rfl, rfl,
    (hremoved _).2.2.2 hgiven _⟩
  cases hdelivery
  rfl

end Wireframe.Channel
