/-!
# Character entities

Text made safe for element content and attribute values. The five characters that markup gives a
meaning to are written as entities; every other character stands for itself.
-/

namespace Wireframe.Text

/-- The written form of one character. -/
def entity : Char → List Char
  | '&' => ['&', 'a', 'm', 'p', ';']
  | '<' => ['&', 'l', 't', ';']
  | '>' => ['&', 'g', 't', ';']
  | '"' => ['&', 'q', 'u', 'o', 't', ';']
  | '\x27' => ['&', '#', '3', '9', ';']
  | c => [c]

/-- The written form of a sequence of characters. -/
def escapeChars (cs : List Char) : List Char :=
  cs.flatMap entity

/-- The text with markup characters written as entities. -/
def escape (text : String) : String :=
  String.ofList (escapeChars text.toList)

@[simp] theorem escapeChars_cons (c : Char) (cs : List Char) :
    escapeChars (c :: cs) = entity c ++ escapeChars cs := rfl

@[simp] theorem toList_escape (text : String) :
    (escape text).toList = escapeChars text.toList := by
  simp [escape]

end Wireframe.Text
