import Wireframe.Host.Channel
import Wireframe.Proofs.EntryLookups
import Mathlib.Data.List.Basic

/-!
# Handlers by type

A channel has one list of handlers for each type of messages, and drops a list with its last handler. A
registry has one list for all of them. Whatever is done to both, each list of the channel is what the
registry has of its type, and no list is empty (`Channel.refines_after`). Thus what a channel does can
be told from one list, which has all handlers in the order of their registration.
-/

namespace Wireframe.Channel

/-- What is done to a channel. -/
inductive Operation where
  | subscribe (kind : String)
  | unsubscribe (subscription : Subscription)
  | clear
  | receive (sender : String) (data : Json)

/-- Does something to a channel. Handing out a message leaves it as it is. -/
def apply (channel : Channel) : Operation → Channel
  | .subscribe kind => (channel.subscribe kind).2
  | .unsubscribe subscription => (channel.unsubscribe subscription).2
  | .clear => channel.clear
  | .receive _ _ => channel

/-- A channel that trusts this origin, after some operations. -/
def after (origin : String) (operations : List Operation) : Channel :=
  operations.foldl apply { trustedOrigin := origin }

/-- The handlers of all types in one list. -/
structure Registry where
  nextId : Nat := 0
  /-- In the order of their registration. -/
  handlers : List Subscription := []

namespace Registry

/-- Does something to a registry. -/
def apply (registry : Registry) : Operation → Registry
  | .subscribe kind =>
    { nextId := registry.nextId + 1
      handlers := registry.handlers ++ [⟨kind, registry.nextId⟩] }
  | .unsubscribe subscription =>
    { registry with handlers := registry.handlers.filter (· ≠ subscription) }
  | .clear => { registry with handlers := [] }
  | .receive _ _ => registry

/-- A registry after some operations. -/
def after (operations : List Operation) : Registry :=
  operations.foldl apply {}

end Registry

/-- The ids of those handlers that are for a type of messages. -/
def idsOf (kind : String) (handlers : List Subscription) : List Nat :=
  (handlers.filter (·.kind = kind)).map Subscription.id

/-- Whether a channel has the handlers of a registry, a list for each type that has any. -/
structure Refines (channel : Channel) (registry : Registry) : Prop where
  nextId : channel.nextId = registry.nextId
  nodup : channel.handlers.keys.Nodup
  ne_nil : ∀ kind, channel.handlers.get? kind ≠ some []
  handlersOf : ∀ kind, channel.handlersOf kind = idsOf kind registry.handlers

/-! ### Handlers of a type -/

section

variable {handlers : List Subscription} {subscription : Subscription} {kind : String} {id : Nat}

lemma mem_idsOf : id ∈ idsOf kind handlers ↔ ⟨kind, id⟩ ∈ handlers := by
  rw [idsOf, List.mem_map]
  constructor
  · rintro ⟨subscription, hmem, rfl⟩
    obtain ⟨hmem, hkind⟩ := List.mem_filter.mp hmem
    rwa [← of_decide_eq_true hkind]
  · exact fun hmem => ⟨_, List.mem_filter.mpr ⟨hmem, decide_eq_true rfl⟩, rfl⟩

lemma idsOf_concat :
    idsOf kind (handlers ++ [subscription])
      = idsOf kind handlers ++ if kind = subscription.kind then [subscription.id] else [] := by
  rw [idsOf, List.filter_append, List.map_append, ← idsOf]
  by_cases hkind : kind = subscription.kind
  · simp [hkind]
  · simp [hkind, Ne.symm hkind]

lemma idsOf_filter_ne :
    idsOf kind (handlers.filter (· ≠ subscription))
      = if kind = subscription.kind then (idsOf kind handlers).filter (· ≠ subscription.id)
        else idsOf kind handlers := by
  obtain ⟨removed, id⟩ := subscription
  split
  · next hkind =>
    rw [idsOf, idsOf, List.filter_map, List.filter_filter, List.filter_filter]
    refine congrArg _ (List.filter_congr fun other _ => ?_)
    have hne : other ≠ ⟨removed, id⟩ ↔ ¬(other.kind = kind ∧ other.id = id) := by
      rw [hkind, ← Subscription.mk.injEq]
    rw [Function.comp_apply, ← Bool.decide_and, ← Bool.decide_and]
    exact decide_eq_decide.mpr (by tauto)
  · next hkind =>
    rw [idsOf, idsOf, List.filter_filter]
    refine congrArg _ (List.filter_congr fun other _ => ?_)
    grind

lemma idsOf_filter_not {other : String} :
    idsOf other (handlers.filter fun subscription => !decide (subscription.kind = kind))
      = if other = kind then [] else idsOf other handlers := by
  rw [idsOf, List.filter_filter]
  split
  · next hkind => simp [hkind]
  · next hkind =>
    refine congrArg _ (List.filter_congr fun subscription _ => ?_)
    grind

end

/-! ### Setting the handlers of a type -/

section

variable (channel : Channel) (kind other : String) (ids : List Nat)

lemma get?_setHandlers :
    (channel.setHandlers kind ids).handlers.get? other
      = if other = kind then if ids = [] then none else some ids else channel.handlers.get? other := by
  cases ids with
  | nil => exact Entries.get?_erase channel.handlers kind other
  | cons id ids =>
    rw [setHandlers, List.isEmpty_cons, if_neg Bool.false_ne_true, if_neg (List.cons_ne_nil id ids)]
    split
    · next hkind => rw [hkind, Entries.get?_insert_self]
    · next hkind => rw [Entries.get?_insert_of_ne _ _ (Ne.symm hkind)]

lemma handlersOf_setHandlers :
    (channel.setHandlers kind ids).handlersOf other
      = if other = kind then ids else channel.handlersOf other := by
  rw [handlersOf, get?_setHandlers]
  split
  · split
    · next hnil => rw [hnil, Option.getD_none]
    · rfl
  · rfl

variable {channel}

lemma nodup_setHandlers (h : channel.handlers.keys.Nodup) :
    (channel.setHandlers kind ids).handlers.keys.Nodup := by
  rw [setHandlers]
  split
  · exact h.sublist (List.filter_sublist.map _)
  · exact Entries.nodup_keys_insert h

lemma subscribe_eq (channel : Channel) (kind : String) :
    channel.subscribe kind
      = (⟨kind, channel.nextId⟩,
        { channel.setHandlers kind (channel.handlersOf kind ++ [channel.nextId]) with
          nextId := channel.nextId + 1 }) := by
  rw [setHandlers, if_neg (by simp)]
  rfl

/-- Removing a handler leaves the others of its type. -/
lemma unsubscribe_eq (channel : Channel) (subscription : Subscription) :
    channel.unsubscribe subscription
      = (decide (subscription.id ∈ channel.handlersOf subscription.kind),
        channel.setHandlers subscription.kind
          ((channel.handlersOf subscription.kind).filter (· ≠ subscription.id))) := by
  rw [unsubscribe]
  split
  · next hnone =>
    rw [handlersOf, hnone, Option.getD_none, List.filter_nil, setHandlers, List.isEmpty_nil, if_pos rfl,
      Entries.erase_of_get?_eq_none hnone]
    rfl
  · next ids hids =>
    rw [handlersOf, hids, Option.getD_some]
    refine congrArg (·, _) (decide_eq_decide.mpr ?_)
    rw [ne_eq, List.length_filter_eq_length_iff]
    simp

end

/-! ### Both after an operation -/

variable {channel : Channel} {registry : Registry}

lemma Refines.setHandlers (h : channel.Refines registry) {kind : String} {ids : List Nat}
    {handlers : List Subscription}
    (hids : ∀ other, idsOf other handlers
      = if other = kind then ids else idsOf other registry.handlers) :
    (channel.setHandlers kind ids).Refines { registry with handlers } where
  nextId := h.nextId
  nodup := nodup_setHandlers kind ids h.nodup
  ne_nil other := by
    rw [get?_setHandlers]
    split
    · split
      · exact (Option.some_ne_none []).symm
      · next hids => exact fun heq => hids (Option.some.inj heq)
    · exact h.ne_nil other
  handlersOf other := by
    rw [handlersOf_setHandlers, hids, h.handlersOf]

lemma Refines.subscribe (h : channel.Refines registry) (kind : String) :
    (channel.subscribe kind).2.Refines (registry.apply (.subscribe kind)) := by
  have hids : ∀ other, idsOf other (registry.handlers ++ [⟨kind, registry.nextId⟩])
      = if other = kind then channel.handlersOf kind ++ [channel.nextId]
        else idsOf other registry.handlers := by
    intro other
    rw [idsOf_concat, h.handlersOf, h.nextId]
    split
    · next hkind => rw [hkind]
    · exact List.append_nil _
  have hset := h.setHandlers hids
  rw [subscribe_eq]
  exact ⟨congrArg (· + 1) h.nextId, hset.nodup, hset.ne_nil, hset.handlersOf⟩

lemma Refines.unsubscribe (h : channel.Refines registry) (subscription : Subscription) :
    (channel.unsubscribe subscription).2.Refines (registry.apply (.unsubscribe subscription)) := by
  rw [unsubscribe_eq]
  refine h.setHandlers fun other => ?_
  rw [idsOf_filter_ne, h.handlersOf]
  split
  · next hkind => rw [hkind]
  · rfl

lemma Refines.clear (h : channel.Refines registry) :
    channel.clear.Refines (registry.apply .clear) where
  nextId := h.nextId
  nodup := .nil
  ne_nil _ := (Option.some_ne_none []).symm
  handlersOf _ := rfl

theorem Refines.apply (h : channel.Refines registry) (operation : Operation) :
    (channel.apply operation).Refines (registry.apply operation) := by
  cases operation with
  | subscribe kind => exact h.subscribe kind
  | unsubscribe subscription => exact h.unsubscribe subscription
  | clear => exact h.clear
  | receive sender data => exact h

theorem refines_after (origin : String) (operations : List Operation) :
    (after origin operations).Refines (Registry.after operations) := by
  suffices hfrom : ∀ {channel registry}, channel.Refines registry →
      (operations.foldl Channel.apply channel).Refines (operations.foldl Registry.apply registry) from
    hfrom ⟨rfl, .nil, fun _ => (Option.some_ne_none []).symm, fun _ => rfl⟩
  induction operations with
  | nil => exact fun h => h
  | cons operation operations ih => exact fun h => ih (h.apply operation)

/-! ### What the one list says -/

lemma Refines.unsubscribe_fst_iff (h : channel.Refines registry) (subscription : Subscription) :
    (channel.unsubscribe subscription).1 = true ↔ subscription ∈ registry.handlers := by
  rw [unsubscribe_eq, decide_eq_true_iff, h.handlersOf, mem_idsOf]

/-- The lists of all types have together as many members as the one list. -/
lemma length_flatMap_eq {entries : Entries (List Nat)} {handlers : List Subscription}
    (hnodup : entries.keys.Nodup)
    (h : ∀ kind, (entries.get? kind).getD [] = idsOf kind handlers) :
    (entries.flatMap (·.2)).length = handlers.length := by
  induction entries generalizing handlers with
  | nil =>
    rcases handlers with _ | ⟨first, rest⟩
    · rfl
    · have hfirst : first.id ∈ idsOf first.kind (first :: rest) := mem_idsOf.mpr List.mem_cons_self
      rw [← h] at hfirst
      exact absurd hfirst List.not_mem_nil
  | cons entry entries ih =>
    obtain ⟨kind, ids⟩ := entry
    obtain ⟨hnotin, hnodup⟩ := List.nodup_cons.mp hnodup
    -- the other lists have the handlers of the other types
    have hothers : ∀ other, (Entries.get? entries other).getD []
        = idsOf other (handlers.filter fun subscription => !decide (subscription.kind = kind)) := by
      intro other
      have hother := h other
      rw [Entries.get?_cons] at hother
      rw [idsOf_filter_not]
      split
      · next hkind =>
        rw [hkind, Entries.get?_eq_none_iff.mpr hnotin]
        rfl
      · next hkind => rwa [if_neg (Ne.symm hkind)] at hother
    have hids : ids = idsOf kind handlers := by
      have hkind := h kind
      rwa [Entries.get?_cons, if_pos rfl, Option.getD_some] at hkind
    rw [List.flatMap_cons, List.length_append, ih hnodup hothers, hids, idsOf, List.length_map]
    exact (List.length_eq_length_filter_add _).symm

lemma Refines.handlerCount_eq (h : channel.Refines registry) :
    channel.handlerCount = registry.handlers.length :=
  length_flatMap_eq h.nodup h.handlersOf

end Wireframe.Channel
