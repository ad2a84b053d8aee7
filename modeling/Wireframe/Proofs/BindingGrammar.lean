import Wireframe.Binding.Grammar
import Wireframe.Proofs.DottedPaths
import Mathlib

/-!
# The texts of the binding grammar

The grammar of bindings as rules that derive texts, beside the reader that looks for the parts of a
text one after the other. Taking all spaces and all characters of a path at once loses no
derivation: after each part, the next one starts with a character that the part cannot have. So the
reader gives the binding that the grammar gives, and a literal just where no rule applies
(`Binding.parse_eq_iff_standsFor`).
-/

namespace Wireframe.Binding

/-! ### Texts of one class of characters -/

section Classes

variable {p : Char → Bool} {run rest : List Char}

/-- Whether a text is made of characters of a class. -/
def MadeOf (p : Char → Bool) (cs : List Char) : Prop :=
  ∀ c ∈ cs, p c = true

/-- Whether a text does not start with a character of a class. -/
def Stops (p : Char → Bool) (cs : List Char) : Prop :=
  ∀ c ∈ cs.head?, p c = false

lemma madeOf_nil : MadeOf p [] :=
  fun _ h => absurd h List.not_mem_nil

lemma stops_nil : Stops p [] :=
  fun _ h => nomatch h

lemma madeOf_takeWhile (cs : List Char) : MadeOf p (cs.takeWhile p) :=
  fun _ hc => List.mem_takeWhile_imp hc

lemma stops_cons {c : Char} (h : p c = false) (cs : List Char) : Stops p (c :: cs) := by
  intro first hfirst
  cases hfirst
  exact h

lemma dropWhile_of_stops (h : Stops p rest) : rest.dropWhile p = rest := by
  cases rest with
  | nil => rfl
  | cons c rest => exact List.dropWhile_cons_of_neg (by simp [h c rfl])

lemma takeWhile_append (hrun : MadeOf p run) (hrest : Stops p rest) :
    (run ++ rest).takeWhile p = run := by
  have hnil : rest.takeWhile p = [] := by
    cases rest with
    | nil => rfl
    | cons c rest => exact List.takeWhile_cons_of_neg (by simp [hrest c rfl])
  rw [List.takeWhile_append_of_pos hrun, hnil, List.append_nil]

lemma dropWhile_append (hrun : MadeOf p run) (hrest : Stops p rest) :
    (run ++ rest).dropWhile p = rest := by
  rw [List.dropWhile_append_of_pos hrun, dropWhile_of_stops hrest]

/-- Dropping spaces cuts a text in two. -/
lemma exists_dropSpaces (cs : List Char) :
    ∃ spaces, MadeOf isSpace spaces ∧ cs = spaces ++ dropSpaces cs :=
  ⟨_, madeOf_takeWhile cs, List.takeWhile_append_dropWhile.symm⟩

lemma dropSpaces_append (h : MadeOf isSpace run) (cs : List Char) :
    dropSpaces (run ++ cs) = dropSpaces cs :=
  List.dropWhile_append_of_pos h

lemma dropSpaces_of_stops (h : Stops isSpace rest) : dropSpaces rest = rest :=
  dropWhile_of_stops h

/-- A text does not start as what stands before it could not start. -/
lemma stops_append {q : Char → Bool} (hrun : MadeOf q run)
    (hclass : ∀ c, q c = true → p c = false) (hrest : run = [] → Stops p rest) :
    Stops p (run ++ rest) := by
  cases run with
  | nil => exact hrest rfl
  | cons c run => exact stops_cons (hclass c (hrun c List.mem_cons_self)) _

end Classes

lemma isSpace_eq_true_iff {c : Char} :
    isSpace c = true ↔ c = ' ' ∨ c = '\t' ∨ c = '\r' ∨ c = '\n' := by
  simp [isSpace, or_assoc]

lemma isPathChar_of_isSpace {c : Char} (h : isSpace c = true) : isPathChar c = false := by
  rcases isSpace_eq_true_iff.mp h with rfl | rfl | rfl | rfl <;> decide

lemma isNameChar_of_isSpace {c : Char} (h : isSpace c = true) : isNameChar c = false := by
  rcases isSpace_eq_true_iff.mp h with rfl | rfl | rfl | rfl <;> decide

lemma not_isSpace_of_isPathChar {c : Char} (h : isPathChar c = true) : isSpace c = false := by
  refine Bool.eq_false_iff.mpr fun hspace => ?_
  simp [isPathChar_of_isSpace hspace] at h

lemma not_isSpace_of_isNameChar {c : Char} (h : isNameChar c = true) : isSpace c = false := by
  refine Bool.eq_false_iff.mpr fun hspace => ?_
  simp [isNameChar_of_isSpace hspace] at h

/-! ### The grammar -/

/-- Whether a text is a word in letters of either case. -/
def Spells (word : String) (cs : List Char) : Prop :=
  cs.map Char.toLower = word.toList

/-- A character with spaces on both sides. -/
inductive Spaced (symbol : Char) : List Char → Prop where
  | intro {before after : List Char} (hbefore : MadeOf isSpace before)
      (hafter : MadeOf isSpace after) : Spaced symbol (before ++ symbol :: after)

/-- The word `path` and an equals sign, or nothing. -/
inductive PathKey : List Char → Prop where
  | absent : PathKey []
  | present {key equals : List Char} (hkey : Spells "path" key) (hequals : Spaced '=' equals) :
      PathKey (key ++ equals)

/-- The name of a converter behind a comma, or nothing. -/
inductive ConverterPart : List Char → Option (List Char) → Prop where
  | absent : ConverterPart [] none
  | present {comma key equals name : List Char} (hcomma : Spaced ',' comma)
      (hkey : Spells "converter" key) (hequals : Spaced '=' equals) (hname : MadeOf isNameChar name)
      (hne : name ≠ []) : ConverterPart (comma ++ key ++ equals ++ name) (some name)

/-- The path, the converter and the closing brace. -/
inductive Ending : List Char → List Char → Option (List Char) → Prop where
  | intro {path part spaces : List Char} {converter : Option (List Char)}
      (hpath : MadeOf isPathChar path) (hpart : ConverterPart part converter)
      (hspaces : MadeOf isSpace spaces) : Ending (path ++ part ++ spaces ++ ['\x7d']) path converter

/-- All that follows the word `binding` and the spaces behind it. -/
inductive Body : List Char → List Char → Option (List Char) → Prop where
  | intro {key ending path : List Char} {converter : Option (List Char)} (hkey : PathKey key)
      (hending : Ending ending path converter) : Body (key ++ ending) path converter

/-- An item binding with its path and its converter. The word `binding` ends at spaces, or right
before the closing brace. -/
inductive ItemText : List Char → List Char → Option (List Char) → Prop where
  | intro {indent word gap body path : List Char} {converter : Option (List Char)}
      (hindent : MadeOf isSpace indent) (hword : Spells "binding" word)
      (hgap : MadeOf isSpace gap) (hends : gap ≠ [] ∨ body.head? = some '\x7d')
      (hbody : Body body path converter) :
      ItemText ('\x7b' :: indent ++ word ++ gap ++ body) path converter

/-- A path behind a fixed start. -/
def RootedText (start : String) (cs path : List Char) : Prop :=
  cs = start.toList ++ path ∧ path ≠ [] ∧ MadeOf isPathChar path

/-- The path of the pieces between points, without the empty ones. -/
def dottedPath (cs : List Char) : Path :=
  ⟨((cs.splitOn '.').filter (· ≠ [])).map String.ofList⟩

/-- The binding that a text stands for, where `cs` is the text without the blanks around it. -/
inductive StandsFor (source : String) (cs : List Char) : Binding → Prop where
  | item {path : List Char} {converter : Option (List Char)} (h : ItemText cs path converter) :
      StandsFor source cs (item (dottedPath path) (converter.map String.ofList) source)
  | sampleData {path : List Char} (h : RootedText "@sampleData." cs path) :
      StandsFor source cs (sampleData (dottedPath path) source)
  | state {path : List Char} (h : RootedText "@state." cs path) :
      StandsFor source cs (state (dottedPath path) source)
  | literal (hitem : ∀ path converter, ¬ItemText cs path converter)
      (hsampleData : ∀ path, ¬RootedText "@sampleData." cs path)
      (hstate : ∀ path, ¬RootedText "@state." cs path) : StandsFor source cs (literal source)

/-! ### Words and symbols -/

lemma keyword?_eq_some_iff {word cs rest : List Char} :
    keyword? word cs = some rest ↔ ∃ key, key.map Char.toLower = word ∧ cs = key ++ rest := by
  induction word generalizing cs with
  | nil => simp [keyword?, eq_comm]
  | cons w word ih =>
    cases cs with
    | nil => simp [keyword?]
    | cons c cs =>
      rw [keyword?]
      constructor
      · intro h
        obtain ⟨hc, h⟩ := Option.ite_none_right_eq_some.mp h
        obtain ⟨key, hkey, rfl⟩ := ih.mp h
        exact ⟨c :: key, by rw [List.map_cons, hc, hkey], rfl⟩
      · rintro ⟨key, hkey, hcs⟩
        cases key with
        | nil => cases hkey
        | cons k key =>
          obtain ⟨rfl, hrest⟩ := List.cons.inj hcs
          obtain ⟨hc, hletters⟩ := List.cons.inj hkey
          rw [if_pos hc]
          exact ih.mpr ⟨key, hletters, hrest⟩

lemma keyword?_append {word : String} {key : List Char} (h : Spells word key) (rest : List Char) :
    keyword? word.toList (key ++ rest) = some rest :=
  keyword?_eq_some_iff.mpr ⟨key, h, rfl⟩

lemma toNat_lt_of_isAlpha {c : Char} (h : c.isAlpha = true) : c.toNat < 128 := by
  obtain hupper | hlower := Bool.or_eq_true_iff.mp h
  · have hrange : c.val ≥ 'A'.val ∧ c.val ≤ 'Z'.val := of_decide_eq_true hupper
    exact lt_of_le_of_lt (UInt32.le_iff_toNat_le.mp hrange.2) (by decide)
  · obtain ⟨-, hle⟩ := Bool.and_eq_true_iff.mp hlower
    exact lt_of_le_of_lt (UInt32.le_iff_toNat_le.mp (of_decide_eq_true hle)) (by decide)

lemma isPathChar_of_isAlpha {c : Char} (h : c.isAlpha = true) : isPathChar c = true := by
  have halphanumeric := Text.isAlphanumeric_of_isAlphanum (toNat_lt_of_isAlpha h)
    (by simp [Char.isAlphanum, h])
  simp [isPathChar, halphanumeric]

/-- The letters of a word may stand in a path. -/
lemma Spells.madeOf {word : String} {key : List Char} (h : Spells word key)
    (hword : word.toList.all Char.isAlpha = true) : MadeOf isPathChar key := by
  intro c hc
  have hlower : c.toLower ∈ word.toList := h ▸ List.mem_map_of_mem hc
  have halpha := List.all_eq_true.mp hword _ hlower
  rw [Char.isAlpha_toLower_eq_isAlpha] at halpha
  exact isPathChar_of_isAlpha halpha

lemma Spells.ne_nil {word : String} {key : List Char} (h : Spells word key)
    (hword : word.toList ≠ []) : key ≠ [] := by
  rintro rfl
  exact hword h.symm

/-- No space stands before a word. -/
lemma Spells.stops {word : String} {key : List Char} (h : Spells word key)
    (hword : word.toList.all Char.isAlpha = true ∧ word.toList ≠ []) (rest : List Char) :
    Stops isSpace (key ++ rest) :=
  stops_append (h.madeOf hword.1) (fun _ => not_isSpace_of_isPathChar)
    fun hnil => absurd hnil (h.ne_nil hword.2)

lemma Spaced.stops {symbol : Char} {spaced : List Char} {p : Char → Bool}
    (h : Spaced symbol spaced) (hspace : ∀ c, isSpace c = true → p c = false)
    (hsymbol : p symbol = false) (rest : List Char) : Stops p (spaced ++ rest) := by
  obtain ⟨hbefore, hafter⟩ := h
  rw [List.append_assoc]
  exact stops_append hbefore hspace fun _ => stops_cons hsymbol _

lemma symbol?_append {symbol : Char} {spaced : List Char} (h : Spaced symbol spaced)
    (hsymbol : isSpace symbol = false) (rest : List Char) :
    symbol? symbol (spaced ++ rest) = some (dropSpaces rest) := by
  obtain ⟨hbefore, hafter⟩ := h
  rw [symbol?, List.append_assoc, dropSpaces_append hbefore, List.cons_append,
    dropSpaces_of_stops (stops_cons hsymbol _)]
  simp only [if_true, dropSpaces_append hafter]

lemma of_symbol? {symbol : Char} {cs rest : List Char} (h : symbol? symbol cs = some rest) :
    ∃ spaced, Spaced symbol spaced ∧ cs = spaced ++ rest := by
  obtain ⟨before, hbefore, hcs⟩ := exists_dropSpaces cs
  rw [symbol?] at h
  split at h
  · next c tail hdropped =>
    obtain ⟨rfl, hrest⟩ := Option.ite_none_right_eq_some.mp h
    cases hrest
    obtain ⟨after, hafter, htail⟩ := exists_dropSpaces tail
    refine ⟨before ++ c :: after, .intro hbefore hafter, ?_⟩
    rw [List.append_assoc, List.cons_append, ← htail, ← hdropped, ← hcs]
  · cases h

/-! ### Converters -/

lemma converterPart?_append {part name rest : List Char} (h : ConverterPart part (some name))
    (hrest : Stops isNameChar rest) : converterPart? (part ++ rest) = some (name, rest) := by
  cases h with
  | @present comma key equals _ hcomma hkey hequals hname hne =>
    have hnamed : Stops isSpace (name ++ rest) :=
      stops_append hname (fun _ => not_isSpace_of_isNameChar) fun hnil => absurd hnil hne
    simp only [converterPart?, List.append_assoc, Option.bind_eq_bind]
    rw [symbol?_append hcomma (by decide), Option.bind_some,
      dropSpaces_of_stops (hkey.stops (by decide) _), keyword?_append hkey, Option.bind_some,
      symbol?_append hequals (by decide), Option.bind_some, dropSpaces_of_stops hnamed,
      takeWhile_append hname hrest, dropWhile_append hname hrest]
    cases name with
    | nil => exact absurd rfl hne
    | cons c name => rfl

lemma of_converterPart? {cs name rest : List Char} (h : converterPart? cs = some (name, rest)) :
    ∃ part, ConverterPart part (some name) ∧ cs = part ++ rest := by
  obtain ⟨afterComma, hsymbol, hkeyword⟩ := Option.bind_eq_some_iff.mp h
  obtain ⟨afterKey, hword, hsign⟩ := Option.bind_eq_some_iff.mp hkeyword
  obtain ⟨named, hequals, hname⟩ := Option.bind_eq_some_iff.mp hsign
  obtain ⟨comma, hcomma, hcs⟩ := of_symbol? hsymbol
  obtain ⟨key, hkey, hafterComma⟩ := keyword?_eq_some_iff.mp hword
  obtain ⟨equals, hequals, hafterKey⟩ := of_symbol? hequals
  split at hname
  · cases hname
  · next hne =>
    cases hname
    refine ⟨comma ++ key ++ equals ++ named.takeWhile isNameChar,
      .present hcomma hkey hequals (madeOf_takeWhile named) (fun hnil => hne hnil), ?_⟩
    rw [hcs, hafterComma, hafterKey]
    simp only [List.append_assoc, List.takeWhile_append_dropWhile]

lemma converterPart?_spaces {spaces : List Char} (h : MadeOf isSpace spaces) :
    converterPart? (spaces ++ ['\x7d']) = none := by
  have hcomma : symbol? ',' (spaces ++ ['\x7d']) = none := by
    rw [symbol?, dropSpaces_append h]
    rfl
  rw [converterPart?, hcomma]
  rfl

/-! ### What follows the opening -/

/-- The path and the converter of a text that a closing brace ends. -/
def ending? (cs : List Char) : Option (List Char × Option (List Char)) :=
  let rest := cs.dropWhile isPathChar
  let (converter, rest) := match converterPart? rest with
    | some (name, rest) => (some name, rest)
    | none => (none, rest)
  match dropSpaces rest with
  | ['\x7d'] => some (cs.takeWhile isPathChar, converter)
  | _ => none

lemma item?_eq (cs : List Char) :
    item? cs = (opening? cs).bind fun body => ending? (dropPathKey body) := rfl

section Parts

variable {cs path : List Char} {converter : Option (List Char)}

lemma ConverterPart.stops {part rest : List Char} {p : Char → Bool}
    (h : ConverterPart part converter) (hspace : ∀ c, isSpace c = true → p c = false)
    (hcomma : p ',' = false) (hrest : Stops p rest) : Stops p (part ++ rest) := by
  cases h with
  | absent => exact hrest
  | present hspaced hkey hequals hname hne =>
    simp only [List.append_assoc]
    exact hspaced.stops hspace hcomma _

lemma exists_of_closing {rest : List Char} (h : dropSpaces rest = ['\x7d']) :
    ∃ spaces, MadeOf isSpace spaces ∧ rest = spaces ++ ['\x7d'] := by
  obtain ⟨spaces, hspaces, hrest⟩ := exists_dropSpaces rest
  exact ⟨spaces, hspaces, h ▸ hrest⟩

lemma dropSpaces_closing {spaces : List Char} (h : MadeOf isSpace spaces) :
    dropSpaces (spaces ++ ['\x7d']) = ['\x7d'] := by
  rw [dropSpaces_append h]
  rfl

lemma ending_of_ending? (h : ending? cs = some (path, converter)) : Ending cs path converter := by
  obtain ⟨hpath, part, rest, hpart, hafter, hclosing⟩ :
      cs.takeWhile isPathChar = path ∧ ∃ part rest, ConverterPart part converter
        ∧ cs.dropWhile isPathChar = part ++ rest ∧ dropSpaces rest = ['\x7d'] := by
    cases hpart : converterPart? (cs.dropWhile isPathChar) with
    | none =>
      simp only [ending?, hpart] at h
      split at h
      · next hclosing =>
        cases h
        exact ⟨rfl, [], _, .absent, rfl, hclosing⟩
      · cases h
    | some found =>
      obtain ⟨name, rest⟩ := found
      obtain ⟨part, hname, hafter⟩ := of_converterPart? hpart
      simp only [ending?, hpart] at h
      split at h
      · next hclosing =>
        cases h
        exact ⟨rfl, part, rest, hname, hafter, hclosing⟩
      · cases h
  obtain ⟨spaces, hspaces, rfl⟩ := exists_of_closing hclosing
  have hmade : MadeOf isPathChar path := hpath ▸ madeOf_takeWhile cs
  have hcs : cs = path ++ part ++ spaces ++ ['\x7d'] := by
    rw [← hpath, List.append_assoc, List.append_assoc, ← hafter, List.takeWhile_append_dropWhile]
  subst hcs
  exact .intro hmade hpart hspaces

lemma stops_closing {spaces : List Char} {p : Char → Bool} (h : MadeOf isSpace spaces)
    (hspace : ∀ c, isSpace c = true → p c = false) (hbrace : p '\x7d' = false) :
    Stops p (spaces ++ ['\x7d']) :=
  stops_append h hspace fun _ => stops_cons hbrace []

/-- Nothing that follows the path could be more of it. -/
lemma ConverterPart.stops_isPathChar {part spaces : List Char} (h : ConverterPart part converter)
    (hspaces : MadeOf isSpace spaces) : Stops isPathChar (part ++ (spaces ++ ['\x7d'])) :=
  h.stops (fun _ => isPathChar_of_isSpace) (by decide)
    (stops_closing hspaces (fun _ => isPathChar_of_isSpace) (by decide))

lemma ending?_of_ending (h : Ending cs path converter) : ending? cs = some (path, converter) := by
  obtain ⟨hpath, hpart, hspaces⟩ := h
  have hafter := hpart.stops_isPathChar hspaces
  rw [List.append_assoc, List.append_assoc]
  simp only [ending?, takeWhile_append hpath hafter, dropWhile_append hpath hafter]
  cases converter with
  | none =>
    cases hpart
    rw [List.nil_append, converterPart?_spaces hspaces]
    simp only [dropSpaces_closing hspaces]
  | some name =>
    rw [converterPart?_append hpart
      (stops_closing hspaces (fun _ => isNameChar_of_isSpace) (by decide))]
    simp only [dropSpaces_closing hspaces]

/-- Spaces before the path may as well belong to what stands before them. -/
lemma Ending.dropSpaces (h : Ending cs path converter) :
    Ending (Binding.dropSpaces cs) path converter := by
  obtain @⟨path, part, spaces, converter, hpath, hpart, hspaces⟩ := h
  by_cases hnil : path = []
  · subst hnil
    cases hpart with
    | absent =>
      rw [List.append_nil, List.nil_append, dropSpaces_closing hspaces]
      exact @Ending.intro [] [] [] none hpath .absent (by simp [MadeOf])
    | @present comma key equals name hcomma hkey hequals hname hne =>
      obtain ⟨hbefore, hafter⟩ := hcomma
      simp only [List.nil_append, List.append_assoc]
      rw [dropSpaces_append hbefore, List.cons_append, dropSpaces_of_stops (stops_cons rfl _)]
      have hcomma := @Spaced.intro ',' [] _ (by simp [MadeOf]) hafter
      simpa using Ending.intro hpath (.present hcomma hkey hequals hname hne) hspaces
  · have hstops : Stops isSpace (path ++ (part ++ (spaces ++ ['\x7d']))) :=
      stops_append hpath (fun _ => not_isSpace_of_isPathChar) fun h => absurd h hnil
    rw [← List.append_assoc, ← List.append_assoc] at hstops
    rw [dropSpaces_of_stops hstops]
    exact .intro hpath hpart hspaces

/-! ### The opening -/

/-- After the characters of a path comes no equals sign. -/
lemma Ending.next (h : Ending cs path converter) :
    symbol? '=' (cs.dropWhile isPathChar) = none := by
  obtain ⟨hpath, hpart, hspaces⟩ := h
  rw [List.append_assoc, List.append_assoc,
    dropWhile_append hpath (hpart.stops_isPathChar hspaces)]
  cases hpart with
  | absent =>
    rw [List.nil_append, symbol?, dropSpaces_closing hspaces]
    rfl
  | present hcomma hkey hequals hname hne =>
    obtain ⟨hbefore, -⟩ := hcomma
    simp only [List.append_assoc]
    rw [symbol?, dropSpaces_append hbefore, List.cons_append,
      dropSpaces_of_stops (stops_cons rfl _)]
    rfl

/-- The word `path` with an equals sign behind it is no path. -/
lemma dropPathKey_of_ending (h : Ending cs path converter) : dropPathKey cs = cs := by
  have hnone : (keyword? "path".toList cs).bind (symbol? '=') = none := by
    refine Option.eq_none_iff_forall_ne_some.mpr fun rest hrest => ?_
    obtain ⟨tail, hword, hsign⟩ := Option.bind_eq_some_iff.mp hrest
    obtain ⟨key, hkey, rfl⟩ := keyword?_eq_some_iff.mp hword
    obtain ⟨equals, hequals, rfl⟩ := of_symbol? hsign
    have hnext := h.next
    rw [dropWhile_append (Spells.madeOf hkey (by decide))
      (hequals.stops (fun _ => isPathChar_of_isSpace) (by decide) rest),
      symbol?_append hequals (by decide)] at hnext
    cases hnext
  rw [dropPathKey, hnone]

lemma ending_dropPathKey (h : Body cs path converter) : Ending (dropPathKey cs) path converter := by
  obtain ⟨hkey, hending⟩ := h
  cases hkey with
  | absent => rwa [List.nil_append, dropPathKey_of_ending hending]
  | present hkey hequals =>
    rw [List.append_assoc, dropPathKey, keyword?_append hkey, Option.bind_some,
      symbol?_append hequals (by decide)]
    exact hending.dropSpaces

lemma body_of_dropPathKey (h : Ending (dropPathKey cs) path converter) :
    Body cs path converter := by
  rw [dropPathKey] at h
  split at h
  · next rest hrest =>
    obtain ⟨tail, hword, hsign⟩ := Option.bind_eq_some_iff.mp hrest
    obtain ⟨key, hkey, rfl⟩ := keyword?_eq_some_iff.mp hword
    obtain ⟨equals, hequals, rfl⟩ := of_symbol? hsign
    rw [← List.append_assoc]
    exact .intro (.present hkey hequals) h
  · exact .intro .absent h

lemma Body.dropSpaces (h : Body cs path converter) :
    Body (Binding.dropSpaces cs) path converter := by
  obtain ⟨hkey, hending⟩ := h
  cases hkey with
  | absent => exact .intro .absent hending.dropSpaces
  | present hkey hequals =>
    rw [List.append_assoc, dropSpaces_of_stops (hkey.stops (by decide) _), ← List.append_assoc]
    exact .intro (.present hkey hequals) hending

lemma opening?_append {indent word gap body : List Char} (hindent : MadeOf isSpace indent)
    (hword : Spells "binding" word) (hgap : MadeOf isSpace gap)
    (hends : gap ≠ [] ∨ body.head? = some '\x7d') :
    opening? ('\x7b' :: indent ++ word ++ gap ++ body) = some (dropSpaces body) := by
  simp only [List.cons_append, List.append_assoc, opening?]
  rw [dropSpaces_append hindent, dropSpaces_of_stops (hword.stops (by decide) _),
    keyword?_append hword, Option.bind_eq_bind, Option.bind_some]
  cases gap with
  | nil =>
    obtain ⟨rest, rfl⟩ := List.head?_eq_some_iff.mp (hends.resolve_left (by simp))
    rfl
  | cons c gap =>
    obtain ⟨hc, hgap⟩ := List.forall_mem_cons.mp hgap
    simp only [List.cons_append, hc, if_true]
    rw [dropSpaces_append hgap]

lemma of_opening? {body : List Char} (h : opening? cs = some body) :
    ∃ indent word gap, MadeOf isSpace indent ∧ Spells "binding" word ∧ MadeOf isSpace gap
      ∧ (gap ≠ [] ∨ body.head? = some '\x7d') ∧ cs = '\x7b' :: indent ++ word ++ gap ++ body := by
  unfold opening? at h
  split at h
  · next tail =>
    obtain ⟨rest, hkeyword, hends⟩ := Option.bind_eq_some_iff.mp h
    obtain ⟨indent, hindent, htail⟩ := exists_dropSpaces tail
    obtain ⟨word, hword, hrest⟩ := keyword?_eq_some_iff.mp hkeyword
    rw [hrest] at htail
    split at hends
    · next c after =>
      split at hends
      · next hc =>
        cases hends
        obtain ⟨spaces, hspaces, hafter⟩ := exists_dropSpaces after
        refine ⟨indent, word, c :: spaces, hindent, hword, List.forall_mem_cons.mpr ⟨hc, hspaces⟩,
          .inl (List.cons_ne_nil _ _), ?_⟩
        rw [htail, List.append_assoc, List.append_assoc, List.cons_append, List.cons_append,
          ← hafter]
      · obtain ⟨rfl, hbody⟩ := Option.ite_none_right_eq_some.mp hends
        cases hbody
        refine ⟨indent, word, [], hindent, hword, by simp [MadeOf], .inr rfl, ?_⟩
        rw [htail, List.append_nil, List.append_assoc, List.cons_append]
    · cases hends
  · cases h

theorem item?_eq_some_iff : item? cs = some (path, converter) ↔ ItemText cs path converter := by
  rw [item?_eq]
  constructor
  · intro h
    obtain ⟨body, hopening, hending⟩ := Option.bind_eq_some_iff.mp h
    obtain ⟨indent, word, gap, hindent, hword, hgap, hends, rfl⟩ := of_opening? hopening
    exact .intro hindent hword hgap hends (body_of_dropPathKey (ending_of_ending? hending))
  · rintro ⟨hindent, hword, hgap, hends, hbody⟩
    rw [opening?_append hindent hword hgap hends, Option.bind_some]
    exact ending?_of_ending (ending_dropPathKey hbody.dropSpaces)

lemma item?_eq_none_iff : item? cs = none ↔ ∀ path converter, ¬ItemText cs path converter := by
  simp only [Option.eq_none_iff_forall_ne_some, Prod.forall, ne_eq, item?_eq_some_iff]

end Parts

/-! ### Paths -/

/-- The code points of blank characters. -/
def blankCodes : List Nat :=
  List.range' 9 5 ++ [0x20, 0x85, 0xA0, 0x1680] ++ List.range' 0x2000 11
    ++ [0x2028, 0x2029, 0x202F, 0x205F, 0x3000]

lemma toNat_mem_blankCodes {c : Char} (h : Text.isBlank c = true) : c.toNat ∈ blankCodes := by
  simp [Text.isBlank, blankCodes] at h ⊢
  omega

lemma isPathChar_of_isBlank {c : Char} (h : Text.isBlank c = true) : isPathChar c = false := by
  have hcodes : ∀ code ∈ blankCodes, isPathChar (Char.ofNat code) = false := by decide +kernel
  simpa using hcodes _ (toNat_mem_blankCodes h)

/-- There is nothing to cut off the pieces of a path. -/
lemma parse_ofList {path : List Char} (h : MadeOf isPathChar path) :
    Path.parse (String.ofList path) = dottedPath path := by
  have htrimmed : ∀ piece ∈ path.splitOn '.', Text.trimChars piece = id piece := by
    intro piece hpiece
    rw [← Text.splitChars_eq_splitOn] at hpiece
    refine Text.trimChars_of_forall fun c hc => Bool.eq_false_iff.mpr fun hblank => ?_
    have hpath := h c (Text.of_mem_splitChars hpiece hc).2
    simp [isPathChar_of_isBlank hblank] at hpath
  refine congrArg Path.mk ?_
  calc (Path.parse (String.ofList path)).segments
      = (((path.splitOn '.').map Text.trimChars).filter (· ≠ [])).map String.ofList := by
        rw [Path.segments_parse, String.toList_ofList]
    _ = ((path.splitOn '.').filter (· ≠ [])).map String.ofList := by
        rw [List.map_congr_left htrimmed, List.map_id]

/-! ### Bindings -/

section Bindings

variable {cs path : List Char} {source start : String}

lemma rootedPath?_eq_some_iff : rootedPath? start cs = some path ↔ RootedText start cs path := by
  rw [rootedPath?]
  constructor
  · intro h
    obtain ⟨hstart, hpath⟩ := Option.ite_none_right_eq_some.mp h
    obtain ⟨⟨hne, hall⟩, hpath⟩ := Option.ite_none_right_eq_some.mp hpath
    obtain ⟨tail, rfl⟩ := List.isPrefixOf_iff_prefix.mp hstart
    cases hpath
    rw [← String.length_toList, List.drop_left] at hne hall ⊢
    exact ⟨rfl, hne, List.all_eq_true.mp hall⟩
  · rintro ⟨rfl, hne, hpath⟩
    have hstart := List.isPrefixOf_iff_prefix.mpr (List.prefix_append start.toList path)
    rw [if_pos hstart, ← String.length_toList, List.drop_left]
    exact if_pos ⟨hne, List.all_eq_true.mpr hpath⟩

lemma rootedPath?_eq_none_iff :
    rootedPath? start cs = none ↔ ∀ path, ¬RootedText start cs path := by
  simp only [Option.eq_none_iff_forall_ne_some, ne_eq, rootedPath?_eq_some_iff]

/-- No item binding starts with an at sign. -/
lemma RootedText.item?_eq_none (h : RootedText start cs path)
    (hstart : start.toList.head? = some '@') : item? cs = none := by
  obtain ⟨rest, hrest⟩ := List.head?_eq_some_iff.mp hstart
  rw [h.1, hrest]
  rfl

/-- Behind one start there is no other one. -/
lemma RootedText.rootedPath?_eq_none {other : String} (h : RootedText start cs path)
    (hother : ∀ rest, ¬other.toList <+: start.toList ++ rest) : rootedPath? other cs = none := by
  rw [h.1, rootedPath?, if_neg fun hprefix => hother path (List.isPrefixOf_iff_prefix.mp hprefix)]

lemma ItemText.madeOf {converter : Option (List Char)} (h : ItemText cs path converter) :
    MadeOf isPathChar path := by
  obtain ⟨-, -, -, -, -, hpath, -, -⟩ := h
  exact hpath

/-- The reader gives what a text stands for. -/
lemma parse_of_standsFor {binding : Binding}
    (h : StandsFor source (Text.trimChars source.toList) binding) : parse source = binding := by
  generalize hcs : Text.trimChars source.toList = cs at h
  cases h with
  | item h =>
    simp only [parse, hcs, item?_eq_some_iff.mpr h, parse_ofList h.madeOf]
  | sampleData h =>
    have hpath := rootedPath?_eq_some_iff.mpr h
    have hitem := h.item?_eq_none rfl
    simp only [parse, hcs, hitem, sampleDataStart, hpath, parse_ofList h.2.2]
  | state h =>
    have hpath := rootedPath?_eq_some_iff.mpr h
    have hitem := h.item?_eq_none rfl
    have hsampleData : rootedPath? "@sampleData." _ = none := h.rootedPath?_eq_none (by simp)
    simp only [parse, hcs, hitem, sampleDataStart, hsampleData, stateStart, hpath,
      parse_ofList h.2.2]
  | literal hitem hsampleData hstate =>
    have hitem := item?_eq_none_iff.mpr hitem
    have hsampleData := rootedPath?_eq_none_iff.mpr hsampleData
    have hstate := rootedPath?_eq_none_iff.mpr hstate
    simp only [parse, hcs, hitem, sampleDataStart, hsampleData, stateStart, hstate]

lemma exists_standsFor (source : String) (cs : List Char) :
    ∃ binding, StandsFor source cs binding := by
  by_cases hitem : ∃ path converter, ItemText cs path converter
  · obtain ⟨path, converter, h⟩ := hitem
    exact ⟨_, .item h⟩
  by_cases hsampleData : ∃ path, RootedText "@sampleData." cs path
  · obtain ⟨path, h⟩ := hsampleData
    exact ⟨_, .sampleData h⟩
  by_cases hstate : ∃ path, RootedText "@state." cs path
  · obtain ⟨path, h⟩ := hstate
    exact ⟨_, .state h⟩
  exact ⟨_, .literal (fun path converter h => hitem ⟨path, converter, h⟩)
    (fun path h => hsampleData ⟨path, h⟩) fun path h => hstate ⟨path, h⟩⟩

end Bindings

/-- A text is read as what it stands for by the grammar once the blanks around it are gone, and its
binding keeps it as it was written. -/
theorem parse_eq_iff_standsFor (source : String) (binding : Binding) :
    (parse source = binding
        ↔ ∃ cs, Text.Trims source.toList cs ∧ StandsFor source cs binding)
      ∧ (parse source).source = source := by
  refine ⟨⟨?_, ?_⟩, source_parse source⟩
  · rintro rfl
    obtain ⟨binding, h⟩ := exists_standsFor source (Text.trimChars source.toList)
    exact ⟨_, Text.trims_trimChars _, parse_of_standsFor h ▸ h⟩
  · rintro ⟨cs, hcs, h⟩
    exact parse_of_standsFor (hcs.eq ▸ h)

end Wireframe.Binding
