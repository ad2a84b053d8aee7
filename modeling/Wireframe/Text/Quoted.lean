import Wireframe.Text.Hidden
import Wireframe.Text.Mark

/-!
# Quoted text

Text between quotes for people to read: quotes, backslashes, characters that cannot be seen and marks
that would be drawn on what stands before them are written with a backslash.
-/

namespace Wireframe.Text

/-- The written form of a character. -/
def quotedChar (c : Char) : List Char :=
  match c with
  | '"' => ['\\', '"']
  | '\\' => ['\\', '\\']
  | '\n' => ['\\', 'n']
  | '\r' => ['\\', 'r']
  | '\t' => ['\\', 't']
  | '\x00' => ['\\', '0']
  | c =>
    if isHidden c || isMark c then
      '\\' :: 'u' :: '\x7b' :: (Nat.toDigits 16 c.toNat ++ ['\x7d'])
    else [c]

/-- The text between quotes. -/
def quoted (text : String) : String :=
  "\"" ++ String.ofList (text.toList.flatMap quotedChar) ++ "\""

end Wireframe.Text
