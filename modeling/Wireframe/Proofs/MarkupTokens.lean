import Wireframe.Markup
import Wireframe.Proofs.EscapedTexts

/-!
# Reading markup back

A scanner splits a text into tags and characters, one character after the other, without knowing how
the text was made. What is printed is read back as the tags that were meant, in their order, with
exactly their attributes: `Markup.scan_print`. So no text and no attribute value is ever taken for a
tag.
-/

namespace Wireframe

/-! ### Scanning -/

/-- A piece of markup as it is read: a tag, whose values are still written with entities, or a
character between tags. -/
inductive Token where
  | opening (tag : String) (attributes : List (String × String))
  | closing (tag : String)
  | char (c : Char)
deriving DecidableEq, Repr

/-- Where a scanner stands, with what it has read of a tag. -/
inductive Scanner where
  | content
  /-- Behind the bracket that begins a tag. -/
  | tagStart
  | openingName (name : List Char)
  | closingName (name : List Char)
  | attributeName (tag : String) (attributes : List (String × String)) (name : List Char)
  /-- Behind an equals sign, where only a quote may follow. -/
  | equals (tag : String) (attributes : List (String × String)) (name : List Char)
  | value (tag : String) (attributes : List (String × String)) (name : List Char)
      (value : List Char)
  /-- Behind the quote that ends a value. -/
  | valueEnd (tag : String) (attributes : List (String × String))

namespace Scanner

/-- The characters of names. -/
def isNameChar (c : Char) : Bool :=
  c.isAlphanum || c = '-'

/-- One character further, with the token that it ends. -/
def step : Scanner → Char → Option (Scanner × Option Token)
  | content, c => if c = '<' then some (tagStart, none) else some (content, some (.char c))
  | tagStart, c =>
    if c = '/' then some (closingName [], none)
    else if isNameChar c then some (openingName [c], none)
    else none
  | openingName name, c =>
    if isNameChar c then some (openingName (name ++ [c]), none)
    else if c = ' ' then some (attributeName (String.ofList name) [] [], none)
    else if c = '>' then some (content, some (.opening (String.ofList name) []))
    else none
  | closingName name, c =>
    if isNameChar c then some (closingName (name ++ [c]), none)
    else if c = '>' then some (content, some (.closing (String.ofList name)))
    else none
  | attributeName tag attributes name, c =>
    if isNameChar c then some (attributeName tag attributes (name ++ [c]), none)
    else if c = '=' ∧ name ≠ [] then some (equals tag attributes name, none)
    else none
  | equals tag attributes name, c =>
    if c = '"' then some (value tag attributes name [], none) else none
  | value tag attributes name text, c =>
    if c = '"' then
      some (valueEnd tag (attributes ++ [(String.ofList name, String.ofList text)]), none)
    else some (value tag attributes name (text ++ [c]), none)
  | valueEnd tag attributes, c =>
    if c = ' ' then some (attributeName tag attributes [], none)
    else if c = '>' then some (content, some (.opening tag attributes))
    else none

/-- The tokens from here on. The text must not end inside a tag. -/
def scan : Scanner → List Char → Option (List Token)
  | content, [] => some []
  | _, [] => none
  | scanner, c :: cs => do
    let (next, token) ← scanner.step c
    let tokens ← next.scan cs
    return token.toList ++ tokens

/-! ### Steps without a token -/

variable {scanner : Scanner} {c : Char} {cs rest : List Char} {tag : String}
  {attributes : List (String × String)} {name text : List Char}

lemma scan_of_step (next : Scanner) (h : scanner.step c = some (next, none)) :
    scanner.scan (c :: rest) = next.scan rest := by
  simp [scan, h]

lemma scan_of_token (next : Scanner) (token : Token)
    (h : scanner.step c = some (next, some token)) :
    scanner.scan (c :: rest) = (next.scan rest).map (token :: ·) := by
  simp only [scan, h, Option.bind_eq_bind, Option.bind_some]
  cases next.scan rest <;> rfl

/-- A name or a value is read character by character. -/
lemma scan_reading (reading : List Char → Scanner)
    (h : ∀ c ∈ cs, ∀ text, (reading text).step c = some (reading (text ++ [c]), none)) :
    (reading text).scan (cs ++ rest) = (reading (text ++ cs)).scan rest := by
  induction cs generalizing text with
  | nil => simp
  | cons c cs ih =>
    obtain ⟨hc, hcs⟩ := List.forall_mem_cons.mp h
    rw [List.cons_append, scan_of_step _ (hc text), ih hcs, List.append_assoc,
      List.singleton_append]

/-- Outside tags, characters stand for themselves up to the next bracket. -/
lemma scan_content (h : '<' ∉ cs) :
    content.scan (cs ++ rest) = (content.scan rest).map (cs.map Token.char ++ ·) := by
  induction cs with
  | nil => simp
  | cons c cs ih =>
    obtain ⟨hc, hcs⟩ := List.ne_and_not_mem_of_not_mem_cons h
    rw [List.cons_append,
      scan_of_token content (.char c) (by simp [step, hc.symm]), ih hcs,
      Option.map_map]
    rfl

/-! ### Printed tags -/

/-- Whether a text can be the name of a tag or of an attribute. -/
def IsName (text : String) : Prop :=
  text ≠ "" ∧ ∀ c ∈ text.toList, isNameChar c = true

instance (text : String) : Decidable (IsName text) :=
  decidable_of_iff (text ≠ "" ∧ text.toList.all isNameChar = true) (by simp [IsName])

/-- An attribute whose value is written with entities. -/
def escaped (attr : String × String) : String × String :=
  (attr.1, Text.escape attr.2)

lemma scan_attribute {attr : String × String} (h : IsName attr.1) :
    (valueEnd tag attributes).scan
        (' ' :: (attr.1.toList ++ '=' :: '"' :: (Text.escapeChars attr.2.toList
          ++ '"' :: rest)))
      = (valueEnd tag (attributes ++ [escaped attr])).scan rest := by
  have hvalue : '"' ∉ Text.escapeChars attr.2.toList := fun hmem =>
    (Text.ne_of_mem_escapeChars hmem).2.2 rfl
  have hname : attr.1.toList ≠ [] := by simpa using h.1
  rw [scan_of_step (attributeName tag attributes []) (by simp [step]),
    scan_reading (attributeName tag attributes)
      (fun c hc text => by simp [step, h.2 c hc]), List.nil_append,
    scan_of_step (equals tag attributes attr.1.toList)
      (by simp [step, hname, isNameChar]),
    scan_of_step (value tag attributes attr.1.toList []) (by simp [step]),
    scan_reading (value tag attributes attr.1.toList)
      (fun c hc text => by simp [step, ne_of_mem_of_not_mem hc hvalue]), List.nil_append,
    scan_of_step (valueEnd tag (attributes ++ [escaped attr]))
      (by simp [step, escaped, Text.escape])]

lemma scan_attributes {more : List (String × String)}
    (h : ∀ attr ∈ more, IsName attr.1) :
    (valueEnd tag attributes).scan ((Markup.attributesText more).toList ++ '>' :: rest)
      = (content.scan rest).map (.opening tag (attributes ++ more.map escaped) :: ·) := by
  induction more generalizing attributes with
  | nil =>
    rw [Markup.attributesText, String.toList_empty, List.nil_append, List.map_nil, List.append_nil,
      scan_of_token content (.opening tag attributes) (by simp [step])]
  | cons attr more ih =>
    obtain ⟨hname, hmore⟩ := List.forall_mem_cons.mp h
    have hstep := @scan_attribute ((Markup.attributesText more).toList ++ '>' :: rest) tag
      attributes attr hname
    rw [ih hmore, List.append_assoc, List.singleton_append] at hstep
    rw [List.map_cons, ← hstep]
    simp [Markup.attributesText]

/-- The name of a tag ends where its attributes begin, or where the tag ends. -/
lemma scan_nameEnd :
    (openingName tag.toList).scan ((Markup.attributesText attributes).toList ++ '>' :: rest)
      = (valueEnd tag []).scan ((Markup.attributesText attributes).toList ++ '>' :: rest) := by
  have hend : ∀ c cs, c = ' ' ∨ c = '>' →
      (openingName tag.toList).scan (c :: cs) = (valueEnd tag []).scan (c :: cs) := by
    rintro c cs (rfl | rfl) <;> simp [scan, step, isNameChar]
  cases attributes with
  | nil => exact hend '>' _ (.inr rfl)
  | cons attr more =>
    simp only [Markup.attributesText, String.toList_append, List.append_assoc]
    exact hend ' ' _ (.inl rfl)

/-- A tag that opens an element. -/
lemma scan_opening (htag : IsName tag) (h : ∀ attr ∈ attributes, IsName attr.1)
    (rest : List Char) :
    content.scan (("<" ++ tag ++ Markup.attributesText attributes ++ ">").toList ++ rest)
      = (content.scan rest).map (.opening tag (attributes.map escaped) :: ·) := by
  obtain ⟨c, cs, hcs⟩ := List.exists_cons_of_ne_nil (show tag.toList ≠ [] by simpa using htag.1)
  have hname : ∀ d ∈ c :: cs, isNameChar d = true := hcs ▸ htag.2
  obtain ⟨hc, hrest⟩ := List.forall_mem_cons.mp hname
  have hslash : c ≠ '/' := by
    rintro rfl
    exact absurd hc (by decide)
  have hchars : ("<" ++ tag ++ Markup.attributesText attributes ++ ">").toList ++ rest
      = '<' :: c :: (cs ++ ((Markup.attributesText attributes).toList ++ '>' :: rest)) := by
    simp [hcs]
  rw [hchars, scan_of_step tagStart (by simp [step]),
    scan_of_step (openingName [c]) (by simp [step, hslash, hc]),
    scan_reading openingName (fun d hd text => by simp [step, hrest d hd]),
    List.singleton_append, ← hcs, scan_nameEnd, scan_attributes h, List.nil_append]

/-- A tag that closes an element. -/
lemma scan_closing (htag : IsName tag) (rest : List Char) :
    content.scan (("</" ++ tag ++ ">").toList ++ rest)
      = (content.scan rest).map (.closing tag :: ·) := by
  have hchars : ("</" ++ tag ++ ">").toList ++ rest
      = '<' :: '/' :: (tag.toList ++ '>' :: rest) := by
    simp
  rw [hchars, scan_of_step tagStart (by simp [step]),
    scan_of_step (closingName []) (by simp [step]),
    scan_reading closingName (fun c hc text => by simp [step, htag.2 c hc]),
    List.nil_append, scan_of_token content (.closing tag)
      (by simp [step, isNameChar])]

end Scanner

/-- The tokens of a text. -/
def Token.scan? (text : String) : Option (List Token) :=
  Scanner.content.scan text.toList

/-! ### Elements -/

lemma Tag.isName_name (tag : Tag) : Scanner.IsName tag.name := by
  cases tag <;> decide

namespace Markup

/-- The elements of markup with their attributes, each before what it contains. -/
def elements : Markup → List (Tag × List (String × String))
  | text _ => []
  | element tag attributes children => (tag, attributes) :: children.flatMap elements

/-- Whether the attributes of all elements have names that can be told from what is around them. -/
def WellNamed (markup : Markup) : Prop :=
  ∀ element ∈ markup.elements, ∀ attr ∈ element.2, Scanner.IsName attr.1

/-- What is to be read from markup. -/
def tokens : Markup → List Token
  | text content => (Text.escapeChars content.toList).map .char
  | element tag attributes children =>
    .opening tag.name (attributes.map Scanner.escaped)
      :: if tag.isVoid then [] else children.flatMap tokens ++ [.closing tag.name]

/-- What is read from the tags of an element: from its own, and between them from its children's. -/
lemma filterMap_tokens_element {α : Type} (f : Token → Option α) (tag : Tag)
    (attributes : List (String × String)) (children : List Markup) :
    (element tag attributes children).tokens.filterMap f
      = (f (.opening tag.name (attributes.map Scanner.escaped))).toList
        ++ if tag.isVoid then []
          else children.flatMap (·.tokens.filterMap f) ++ (f (.closing tag.name)).toList := by
  have hcons : ∀ token tokens, List.filterMap f (token :: tokens)
      = (f token).toList ++ tokens.filterMap f := by
    intro token tokens
    rw [List.filterMap_cons]
    cases f token <;> rfl
  rw [tokens, hcons]
  split
  · rfl
  · rw [List.filterMap_append, List.filterMap_flatMap, hcons, List.filterMap_nil, List.append_nil]

/-- Texts have no tags. -/
lemma filterMap_tokens_text {α : Type} {f : Token → Option α} (hf : ∀ c, f (.char c) = none)
    (content : String) : (text content).tokens.filterMap f = [] := by
  simp [tokens, hf]

@[simp] lemma wellNamed_text (content : String) : (text content).WellNamed := by
  simp [WellNamed, elements]

@[simp] lemma wellNamed_element (tag : Tag) (attributes : List (String × String))
    (children : List Markup) :
    (element tag attributes children).WellNamed
      ↔ (∀ attr ∈ attributes, Scanner.IsName attr.1) ∧ ∀ child ∈ children, child.WellNamed := by
  simp only [WellNamed, elements, List.forall_mem_cons, List.mem_flatMap]
  refine and_congr_right fun _ => ⟨fun h child hchild element helement => ?_, fun h element => ?_⟩
  · exact h element ⟨child, hchild, helement⟩
  · rintro ⟨child, hchild, helement⟩
    exact h child hchild element helement

mutual
/-- What is printed is read back as the tags and the texts that were meant. -/
theorem scan_print (markup : Markup) (rest : List Char) (h : markup.WellNamed) :
    Scanner.content.scan (markup.print.toList ++ rest)
      = (Scanner.content.scan rest).map (markup.tokens ++ ·) := by
  match markup with
  | .text content =>
    rw [print, Text.toList_escape, tokens]
    exact Scanner.scan_content fun hmem => (Text.ne_of_mem_escapeChars hmem).1 rfl
  | element tag attributes children =>
    obtain ⟨hattributes, hchildren⟩ := (wellNamed_element _ _ _).mp h
    have hopening := Scanner.scan_opening tag.isName_name hattributes
    simp only [print, tokens]
    split
    · rw [hopening]
      rfl
    · have hclosing := Scanner.scan_closing tag.isName_name rest
      simp only [String.toList_append, List.append_assoc] at hopening hclosing ⊢
      rw [hopening, scan_printAll children _ hchildren, hclosing, Option.map_map, Option.map_map]
      simp only [List.cons_append, List.append_assoc]
      rfl

theorem scan_printAll (items : List Markup) (rest : List Char)
    (h : ∀ item ∈ items, item.WellNamed) :
    Scanner.content.scan ((printAll items).toList ++ rest)
      = (Scanner.content.scan rest).map (items.flatMap tokens ++ ·) := by
  match items with
  | [] => simp [printAll]
  | item :: items =>
    obtain ⟨hitem, hitems⟩ := List.forall_mem_cons.mp h
    rw [printAll, String.toList_append, List.append_assoc, scan_print item _ hitem,
      scan_printAll items _ hitems, Option.map_map]
    simp only [List.flatMap_cons, List.append_assoc]
    rfl
end

/-- Printed markup is read back whole. -/
theorem scan?_print {markup : Markup} (h : markup.WellNamed) :
    Token.scan? markup.print = some markup.tokens := by
  have hscan := scan_print markup [] h
  simpa [Token.scan?, Scanner.scan] using hscan

-- a value that is not in quotes is not read at all
example : Token.scan? "<b id=x></b>" = none := by decide

end Markup

end Wireframe
