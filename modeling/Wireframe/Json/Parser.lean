import Wireframe.Json.Numeral

/-!
# Reading JSON text

The text is split into tokens, and the tokens are fed one by one to a machine that holds the
containers still open. Nothing is accepted beyond the standard: no trailing commas, no comments, no
raw control characters in strings, no unpaired surrogates.
-/

namespace Wireframe.Json

open Text

/-! ### Tokens -/

inductive Token where
  | openArray
  | closeArray
  | openObject
  | closeObject
  | comma
  | colon
  | scalar (value : Json)

/-- The value of four hexadecimal digits. -/
def codeUnit? (a b c d : Char) : Option Nat := do
  let a ← hexDigit? a
  let b ← hexDigit? b
  let c ← hexDigit? c
  let d ← hexDigit? d
  return ((a * 16 + b) * 16 + c) * 16 + d

/-- The character after a backslash, where one letter names it. -/
def namedEscape? : Char → Option Char
  | '"' => some '"'
  | '\\' => some '\\'
  | '/' => some '/'
  | 'b' => some '\x08'
  | 'f' => some '\x0c'
  | 'n' => some '\n'
  | 'r' => some '\r'
  | 't' => some '\t'
  | _ => none

def isHighSurrogate (unit : Nat) : Bool := 0xD800 ≤ unit && unit < 0xDC00

def isLowSurrogate (unit : Nat) : Bool := 0xDC00 ≤ unit && unit < 0xE000

/-- The rest of a string after its opening quote: the characters (those read so far are in
`seen`, last first) and what follows the closing quote. -/
def scanString (seen : List Char) : List Char → Option (String × List Char)
  | [] => none
  | '"' :: cs => some (String.ofList seen.reverse, cs)
  | '\\' :: 'u' :: a :: b :: c :: d :: '\\' :: 'u' :: e :: f :: g :: h :: cs =>
    match codeUnit? a b c d, codeUnit? e f g h with
    | some high, some low =>
      if isHighSurrogate high then
        if isLowSurrogate low then
          let code := 0x10000 + (high - 0xD800) * 0x400 + (low - 0xDC00)
          scanString (Char.ofNat code :: seen) cs
        else none
      else if isLowSurrogate high then none
      else scanString (Char.ofNat high :: seen) ('\\' :: 'u' :: e :: f :: g :: h :: cs)
    | _, _ => none
  | '\\' :: 'u' :: a :: b :: c :: d :: cs =>
    match codeUnit? a b c d with
    | some unit =>
      if isHighSurrogate unit || isLowSurrogate unit then none
      else scanString (Char.ofNat unit :: seen) cs
    | none => none
  | '\\' :: e :: cs =>
    match namedEscape? e with
    | some c => scanString (c :: seen) cs
    | none => none
  | c :: cs => if c.toNat < 32 ∨ c = '\\' then none else scanString (c :: seen) cs
termination_by structural cs => cs

/-- The first token of a text that does not start with a blank, and what follows. -/
def scanToken : List Char → Option (Token × List Char)
  | '[' :: cs => some (.openArray, cs)
  | ']' :: cs => some (.closeArray, cs)
  | '\x7b' :: cs => some (.openObject, cs)
  | '\x7d' :: cs => some (.closeObject, cs)
  | ',' :: cs => some (.comma, cs)
  | ':' :: cs => some (.colon, cs)
  | '"' :: cs => (scanString [] cs).map fun (s, rest) => (.scalar (string s), rest)
  | 'n' :: 'u' :: 'l' :: 'l' :: cs => some (.scalar null, cs)
  | 't' :: 'r' :: 'u' :: 'e' :: cs => some (.scalar (bool true), cs)
  | 'f' :: 'a' :: 'l' :: 's' :: 'e' :: cs => some (.scalar (bool false), cs)
  | cs => (Number.span? cs).map fun (n, rest) => (.scalar (number n), rest)

/-- A character that may stand between tokens. -/
def isSpace (c : Char) : Bool :=
  c = ' ' || c = '\t' || c = '\n' || c = '\r'

/-- The tokens of a text, in at most `steps` steps; those read so far are in `seen`, last first. -/
def scanWithin (seen : List Token) : Nat → List Char → Option (List Token)
  | 0, cs => if cs = [] then some seen.reverse else none
  | steps + 1, cs =>
    match cs.dropWhile isSpace with
    | [] => some seen.reverse
    | cs =>
      match scanToken cs with
      | some (token, rest) => scanWithin (token :: seen) steps rest
      | none => none

/-- The tokens of a text. Each takes at least one character. -/
def tokens? (text : String) : Option (List Token) :=
  let cs := text.toList
  scanWithin [] cs.length cs

/-! ### Values -/

/-- A container still open, with what it holds so far, last first; in an object, also the key that
waits for its value. -/
inductive Frame where
  | array (items : List Json)
  | object (fields : Entries Json) (key : String)

/-- What the reader waits for. -/
inductive Reader where
  | value (frames : List Frame)
  | firstItem (frames : List Frame)
  | firstKey (frames : List Frame)
  | nextName (fields : Entries Json) (frames : List Frame)
  | colon (fields : Entries Json) (key : String) (frames : List Frame)
  | nextItem (items : List Json) (frames : List Frame)
  | nextKey (fields : Entries Json) (frames : List Frame)
  | done (value : Json)

/-- Hands a finished value to the innermost open container. A repeated key keeps its first place
and takes its last value. -/
def Reader.finish (value : Json) : List Frame → Reader
  | [] => .done value
  | .array items :: frames => .nextItem (value :: items) frames
  | .object fields key :: frames => .nextKey (fields.insert key value) frames

/-- The first token of a value. -/
def Reader.start (depth : Nat) (frames : List Frame) : Token → Option Reader
  | .scalar v => some (finish v frames)
  | .openArray => if frames.length < depth then some (.firstItem frames) else none
  | .openObject => if frames.length < depth then some (.firstKey frames) else none
  | _ => none

/-- One token further, with at most `depth` containers open at a time. -/
def Reader.step (depth : Nat) : Reader → Token → Option Reader
  | .firstItem frames, .closeArray => some (finish (Json.array []) frames)
  | .firstItem frames, token => start depth (.array [] :: frames) token
  | .value frames, token => start depth frames token
  | .firstKey frames, .closeObject => some (finish (Json.object []) frames)
  | .firstKey frames, .scalar (.string key) => some (.colon [] key frames)
  | .nextName fields frames, .scalar (.string key) => some (.colon fields key frames)
  | .colon fields key frames, .colon => some (.value (.object fields key :: frames))
  | .nextItem items frames, .comma => some (.value (.array items :: frames))
  | .nextItem items frames, .closeArray => some (finish (Json.array items.reverse) frames)
  | .nextKey fields frames, .comma => some (.nextName fields frames)
  | .nextKey fields frames, .closeObject => some (finish (Json.object fields) frames)
  | _, _ => none

/-- The deepest nesting a document may have. -/
def maxDepth : Nat := 127

/-- The value a text holds, if its nesting is at most `depth`. -/
def parseWithin (depth : Nat) (text : String) : Option Json := do
  let tokens ← tokens? text
  match ← tokens.foldlM (Reader.step depth) (.value []) with
  | .done value => return value
  | _ => none

/-- The value a document's text holds. -/
def parse (text : String) : Option Json :=
  parseWithin maxDepth text

end Wireframe.Json
