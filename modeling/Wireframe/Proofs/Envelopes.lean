import Wireframe.Host.Envelope
import Mathlib.Tactic.Common

/-!
# Envelopes on the wire

What an envelope is written as is read as the same envelope, and it is read from whatever carries it:
an object that names the protocol, has its type, and has its payload if there is one. Nothing else is
a message (`Envelope.wire_laws`).
-/

namespace Wireframe

lemma Entries.string?_eq_some_iff {fields : Entries Json} {key text : String} :
    fields.string? key = some text ↔ fields.get? key = some (.string text) := by
  rw [Entries.string?, Option.bind_eq_some_iff]
  constructor
  · rintro ⟨value, hvalue, htext⟩
    cases value <;> cases htext
    exact hvalue
  · exact fun h => ⟨_, h, rfl⟩

/-- Whether data is an envelope on the wire. Whatever else the object has does not count. -/
inductive Json.Carries (envelope : Envelope) : Json → Prop
  | object {fields : Entries Json}
      (source : fields.get? "source" = some (.string "wirevana"))
      (kind : fields.get? "type" = some (.string envelope.kind))
      (payload : fields.get? "payload" = envelope.payload) : Carries envelope (.object fields)

namespace Envelope

variable {envelope : Envelope} {data : Json}

lemma ofJson?_eq_some_iff : ofJson? data = some envelope ↔ data.Carries envelope := by
  cases data with
  | object fields =>
    have hread : ofJson? (.object fields) =
        if Entries.string? fields "source" = some "wirevana" then
          (Entries.string? fields "type").bind fun kind =>
            some { kind, payload := Entries.get? fields "payload" }
        else none := rfl
    rw [hread]
    constructor
    · intro h
      obtain ⟨hsource, hfound⟩ := Option.ite_none_right_eq_some.mp h
      obtain ⟨kind, hkind, heq⟩ := Option.bind_eq_some_iff.mp hfound
      cases heq
      exact .object (Entries.string?_eq_some_iff.mp hsource) (Entries.string?_eq_some_iff.mp hkind) rfl
    · rintro ⟨hsource, hkind, hpayload⟩
      rw [if_pos (Entries.string?_eq_some_iff.mpr hsource), Entries.string?_eq_some_iff.mpr hkind,
        Option.bind_some, hpayload]
  | _ => exact ⟨fun h => (nomatch h), fun h => (nomatch h)⟩

/-- A payload that is null is written, and one that is not there is not. -/
lemma carries_toJson (envelope : Envelope) : envelope.toJson.Carries envelope := by
  refine .object rfl rfl ?_
  cases h : envelope.payload <;> simp [Json.field?]

/-- An envelope is read back from what it is written as. -/
lemma ofJson?_toJson (envelope : Envelope) : ofJson? envelope.toJson = some envelope :=
  ofJson?_eq_some_iff.mpr envelope.carries_toJson

end Envelope

/-- Of what a preview tells its host, it understands one message when the host sends it back: the
request to navigate, as it was made. -/
lemma Inbound.ofEnvelope?_envelope {message : Outbound} {inbound : Inbound} :
    ofEnvelope? message.envelope = some inbound
      ↔ ∃ destination, message = .navigate destination ∧ inbound = .navigate destination := by
  cases message with
  | navigate destination =>
    have hread : ofEnvelope? (Outbound.navigate destination).envelope
        = some (.navigate destination) := rfl
    rw [hread, Option.some_inj]
    constructor
    · rintro rfl
      exact ⟨destination, rfl, rfl⟩
    · rintro ⟨_, hmessage, rfl⟩
      cases hmessage
      rfl
  | _ => exact ⟨fun h => (nomatch h), fun ⟨_, h, _⟩ => (nomatch h)⟩

/-- An envelope is read back from what it is written as. Data is read as an envelope just if it carries
it, and not at all if it carries none. What comes back to a preview of its own messages is a request
just if it was one, and then for the same tab. -/
theorem Envelope.wire_laws (envelope : Envelope) (data : Json) (message : Outbound) :
    ofJson? envelope.toJson = some envelope
      ∧ (ofJson? data = some envelope ↔ data.Carries envelope)
      ∧ (ofJson? data = none ↔ ∀ other, ¬data.Carries other)
      ∧ ∀ inbound, (ofJson? message.envelope.toJson).bind Inbound.ofEnvelope? = some inbound
        ↔ ∃ destination, message = .navigate destination ∧ inbound = .navigate destination := by
  refine ⟨ofJson?_toJson envelope, ofJson?_eq_some_iff, ?_, fun inbound => ?_⟩
  · simp only [Option.eq_none_iff_forall_ne_some, ne_eq, ofJson?_eq_some_iff]
  · rw [ofJson?_toJson, Option.bind_some, Inbound.ofEnvelope?_envelope]

end Wireframe
