import Wireframe.Json.Parser
import Wireframe.Proofs.EntryLookups

/-!
# Objects without repeated keys

Reading a text writes the fields of an object one after the other, so that a repeated key takes its
place only once. The machine that reads keeps this of all containers that are open, and thus no object
of a value that was read has a key twice (`Json.hasDistinctKeys_parse`).
-/

namespace Wireframe

namespace Entries

variable {α : Type} {entries : Entries α} {key : String} {value : α}

lemma mem_insert {entry : String × α} (h : entry ∈ entries.insert key value) :
    entry = (key, value) ∨ entry ∈ entries := by
  induction entries with
  | nil => exact .inl (by simpa [insert] using h)
  | cons first rest ih =>
    obtain ⟨k, v⟩ := first
    simp only [insert] at h
    split at h
    · next hk =>
      subst hk
      rcases List.mem_cons.mp h with rfl | h
      · exact .inl rfl
      · exact .inr (List.mem_cons_of_mem _ h)
    · rcases List.mem_cons.mp h with rfl | h
      · exact .inr List.mem_cons_self
      · exact (ih h).imp_right (List.mem_cons_of_mem _)

end Entries

namespace Json

mutual
/-- Whether no object in a value has a key twice. -/
def hasDistinctKeys : Json → Bool
  | array items => itemsHaveDistinctKeys items
  | object fields => decide (Entries.keys fields).Nodup && fieldsHaveDistinctKeys fields
  | _ => true

def itemsHaveDistinctKeys : List Json → Bool
  | [] => true
  | item :: items => item.hasDistinctKeys && itemsHaveDistinctKeys items

def fieldsHaveDistinctKeys : List (String × Json) → Bool
  | [] => true
  | (_, value) :: fields => value.hasDistinctKeys && fieldsHaveDistinctKeys fields
end

lemma hasDistinctKeys_array {items : List Json} :
    (array items).hasDistinctKeys = true ↔ ∀ item ∈ items, item.hasDistinctKeys = true := by
  rw [hasDistinctKeys]
  induction items with
  | nil => simp [itemsHaveDistinctKeys]
  | cons item items ih => simp [itemsHaveDistinctKeys, ih]

lemma hasDistinctKeys_object {fields : Entries Json} :
    (object fields).hasDistinctKeys = true
      ↔ fields.keys.Nodup ∧ ∀ entry ∈ fields, entry.2.hasDistinctKeys = true := by
  rw [hasDistinctKeys, Bool.and_eq_true, decide_eq_true_iff]
  refine and_congr_right' ?_
  induction fields with
  | nil => simp [fieldsHaveDistinctKeys]
  | cons entry fields ih =>
    obtain ⟨key, value⟩ := entry
    simp [fieldsHaveDistinctKeys, ih]

/-- A field of an object without repeated keys. -/
lemma hasDistinctKeys_of_get? {fields : Entries Json} {key : String} {value : Json}
    (h : (object fields).hasDistinctKeys = true) (hget : fields.get? key = some value) :
    value.hasDistinctKeys = true := by
  have hvalues := (hasDistinctKeys_object.mp h).2
  clear h
  induction fields with
  | nil => cases hget
  | cons entry fields ih =>
    obtain ⟨k, v⟩ := entry
    obtain ⟨hv, hrest⟩ := List.forall_mem_cons.mp hvalues
    rw [Entries.get?_cons] at hget
    split at hget
    · cases hget
      exact hv
    · exact ih hget hrest

/-! ### Tokens -/

/-- Whether a token is a value that has no repeated keys, or no value. -/
def Token.HasDistinctKeys : Token → Prop
  | scalar value => value.hasDistinctKeys = true
  | _ => True

lemma hasDistinctKeys_scanToken {cs rest : List Char} {token : Token}
    (h : scanToken cs = some (token, rest)) : token.HasDistinctKeys := by
  simp only [scanToken] at h
  split at h
  case h_7 =>
    obtain ⟨⟨text, rest⟩, -, heq⟩ := Option.map_eq_some_iff.mp h
    cases heq
    rfl
  case h_11 =>
    obtain ⟨⟨n, rest⟩, -, heq⟩ := Option.map_eq_some_iff.mp h
    cases heq
    rfl
  all_goals
    cases h
    trivial

lemma hasDistinctKeys_scanWithin {seen tokens : List Token} {steps : Nat} {cs : List Char}
    (hseen : ∀ token ∈ seen, token.HasDistinctKeys)
    (h : scanWithin seen steps cs = some tokens) : ∀ token ∈ tokens, token.HasDistinctKeys := by
  induction steps generalizing seen cs with
  | zero =>
    rw [scanWithin, Option.ite_none_right_eq_some] at h
    cases h.2
    simpa using hseen
  | succ steps ih =>
    rw [scanWithin] at h
    split at h
    · cases h
      simpa using hseen
    · split at h
      · next token rest hscan =>
        exact ih (List.forall_mem_cons.mpr ⟨hasDistinctKeys_scanToken hscan, hseen⟩) h
      · cases h

/-! ### Reading -/

/-- Whether what an open container holds so far has no repeated keys. -/
def Frame.HasDistinctKeys : Frame → Prop
  | array items => ∀ item ∈ items, item.hasDistinctKeys = true
  | object fields _ => (Json.object fields).hasDistinctKeys = true

/-- Whether all that was read so far has no repeated keys. -/
def Reader.HasDistinctKeys : Reader → Prop
  | value frames => ∀ frame ∈ frames, frame.HasDistinctKeys
  | firstItem frames => ∀ frame ∈ frames, frame.HasDistinctKeys
  | firstKey frames => ∀ frame ∈ frames, frame.HasDistinctKeys
  | nextName fields frames =>
    (object fields).hasDistinctKeys = true ∧ ∀ frame ∈ frames, frame.HasDistinctKeys
  | colon fields _ frames =>
    (object fields).hasDistinctKeys = true ∧ ∀ frame ∈ frames, frame.HasDistinctKeys
  | nextItem items frames =>
    (∀ item ∈ items, item.hasDistinctKeys = true) ∧ ∀ frame ∈ frames, frame.HasDistinctKeys
  | nextKey fields frames =>
    (object fields).hasDistinctKeys = true ∧ ∀ frame ∈ frames, frame.HasDistinctKeys
  | done json => json.hasDistinctKeys = true

lemma hasDistinctKeys_insert {fields : Entries Json} {key : String} {value : Json}
    (hfields : (object fields).hasDistinctKeys = true) (hvalue : value.hasDistinctKeys = true) :
    (object (fields.insert key value)).hasDistinctKeys = true := by
  obtain ⟨hkeys, hvalues⟩ := hasDistinctKeys_object.mp hfields
  refine hasDistinctKeys_object.mpr ⟨Entries.nodup_keys_insert hkeys, fun entry hentry => ?_⟩
  rcases Entries.mem_insert hentry with rfl | hentry
  · exact hvalue
  · exact hvalues entry hentry

namespace Reader

variable {depth : Nat} {reader next : Reader} {frames : List Frame} {token : Token} {json : Json}

lemma hasDistinctKeys_finish (hframes : ∀ frame ∈ frames, frame.HasDistinctKeys)
    (hjson : json.hasDistinctKeys = true) : (finish json frames).HasDistinctKeys := by
  cases frames with
  | nil => exact hjson
  | cons frame frames =>
    obtain ⟨hframe, hrest⟩ := List.forall_mem_cons.mp hframes
    cases frame with
    | array items => exact ⟨List.forall_mem_cons.mpr ⟨hjson, hframe⟩, hrest⟩
    | object fields key => exact ⟨hasDistinctKeys_insert hframe hjson, hrest⟩

lemma hasDistinctKeys_start (hframes : ∀ frame ∈ frames, frame.HasDistinctKeys)
    (htoken : token.HasDistinctKeys) (h : start depth frames token = some next) :
    next.HasDistinctKeys := by
  simp only [start] at h
  split at h
  · cases h
    exact hasDistinctKeys_finish hframes htoken
  · split at h
    · cases h
      exact hframes
    · cases h
  · split at h
    · cases h
      exact hframes
    · cases h
  · cases h

/-- One token further, nothing has a repeated key. -/
lemma hasDistinctKeys_step (hreader : reader.HasDistinctKeys) (htoken : token.HasDistinctKeys)
    (h : step depth reader token = some next) : next.HasDistinctKeys := by
  simp only [step] at h
  split at h
  case h_1 =>
    cases h
    exact hasDistinctKeys_finish hreader rfl
  case h_2 =>
    have hframe : (Frame.array []).HasDistinctKeys := by simp [Frame.HasDistinctKeys]
    exact hasDistinctKeys_start (List.forall_mem_cons.mpr ⟨hframe, hreader⟩) htoken h
  case h_3 => exact hasDistinctKeys_start hreader htoken h
  case h_4 =>
    cases h
    exact hasDistinctKeys_finish hreader rfl
  case h_5 =>
    cases h
    exact ⟨rfl, hreader⟩
  case h_6 =>
    cases h
    exact hreader
  case h_7 =>
    cases h
    exact List.forall_mem_cons.mpr hreader
  case h_8 =>
    cases h
    exact List.forall_mem_cons.mpr hreader
  case h_9 =>
    cases h
    refine hasDistinctKeys_finish hreader.2 (hasDistinctKeys_array.mpr ?_)
    simpa using hreader.1
  case h_10 =>
    cases h
    exact hreader
  case h_11 =>
    cases h
    exact hasDistinctKeys_finish hreader.2 hreader.1
  case h_12 => cases h

lemma hasDistinctKeys_foldlM {tokens : List Token} (hreader : reader.HasDistinctKeys)
    (htokens : ∀ token ∈ tokens, token.HasDistinctKeys)
    (h : tokens.foldlM (step depth) reader = some next) : next.HasDistinctKeys := by
  induction tokens generalizing reader with
  | nil =>
    cases h
    exact hreader
  | cons token tokens ih =>
    obtain ⟨htoken, htokens⟩ := List.forall_mem_cons.mp htokens
    rw [List.foldlM_cons] at h
    obtain ⟨after, hstep, hrest⟩ := Option.bind_eq_some_iff.mp h
    exact ih (hasDistinctKeys_step hreader htoken hstep) htokens hrest

end Reader

/-- No object of a value that was read has a key twice. -/
theorem hasDistinctKeys_parse {text : String} {json : Json} (h : parse text = some json) :
    json.hasDistinctKeys = true := by
  simp only [parse, parseWithin] at h
  obtain ⟨tokens, htokens, h⟩ := Option.bind_eq_some_iff.mp h
  obtain ⟨reader, hreader, h⟩ := Option.bind_eq_some_iff.mp h
  have hscanned := hasDistinctKeys_scanWithin (by simp) htokens
  have hread := Reader.hasDistinctKeys_foldlM (by simp [Reader.HasDistinctKeys]) hscanned hreader
  split at h
  · cases h
    exact hread
  · cases h

end Json

end Wireframe
