import Wireframe.Text.Blank

/-!
# Icons

Wireframes name icons by what they mean. Each name stands for an icon of a font and for a symbol
that is shown where the font is not loaded.
-/

namespace Wireframe

structure Icon where
  /-- The name in the icon font. -/
  glyphName : String
  /-- The stand-in as plain text. -/
  symbol : String
deriving DecidableEq, Repr

namespace Icon

/-- Shown for names that are not in the table. -/
def fallback : Icon := ⟨"x", "✕"⟩

/-- The icons by their meaning. -/
def table : List (String × Icon) :=
  [("home", ⟨"home", "⌂"⟩), ("back", ⟨"arrow-left", "←"⟩), ("forward", ⟨"arrow-right", "→"⟩),
    ("close", ⟨"x", "✕"⟩), ("menu", ⟨"menu-2", "☰"⟩), ("search", ⟨"search", "⌕"⟩),
    ("filter", ⟨"filter", "⏷"⟩), ("sort", ⟨"arrows-sort", "⇅"⟩), ("add", ⟨"plus", "+"⟩),
    ("remove", ⟨"minus", "−"⟩), ("edit", ⟨"edit", "✎"⟩), ("delete", ⟨"trash", "🗑"⟩),
    ("save", ⟨"device-floppy", "💾"⟩), ("cancel", ⟨"x", "✕"⟩), ("check", ⟨"check", "✓"⟩),
    ("error", ⟨"alert-circle", "⊘"⟩), ("warning", ⟨"alert-triangle", "⚠"⟩),
    ("info", ⟨"info-circle", "ⓘ"⟩), ("success", ⟨"check-circle", "✔"⟩), ("star", ⟨"star", "★"⟩),
    ("heart", ⟨"heart", "♥"⟩), ("bookmark", ⟨"bookmark", "🔖"⟩), ("share", ⟨"share", "⤴"⟩),
    ("settings", ⟨"settings", "⚙"⟩), ("profile", ⟨"user-circle", "☺"⟩),
    ("notification", ⟨"bell", "🔔"⟩), ("message", ⟨"message", "✉"⟩), ("phone", ⟨"phone", "☎"⟩),
    ("email", ⟨"mail", "✉"⟩), ("calendar", ⟨"calendar", "📅"⟩), ("clock", ⟨"clock", "◷"⟩),
    ("location", ⟨"map-pin", "⌖"⟩), ("camera", ⟨"camera", "📷"⟩), ("image", ⟨"photo", "🖼"⟩),
    ("file", ⟨"file", "📄"⟩), ("folder", ⟨"folder", "📁"⟩), ("download", ⟨"download", "⤓"⟩),
    ("upload", ⟨"upload", "⤒"⟩), ("refresh", ⟨"refresh", "↻"⟩), ("sync", ⟨"sync", "⇄"⟩),
    ("wifi", ⟨"wifi", "📶"⟩), ("bluetooth", ⟨"bluetooth", "ᛒ"⟩), ("archive", ⟨"archive", "🗄"⟩),
    ("users", ⟨"users", "👥"⟩), ("clipboard", ⟨"clipboard", "📋"⟩), ("chart", ⟨"chart-bar", "📊"⟩),
    ("dashboard", ⟨"dashboard", "▦"⟩), ("arrow-down", ⟨"arrow-down", "↓"⟩),
    ("play", ⟨"player-play", "▶"⟩), ("pause", ⟨"player-pause", "⏸"⟩)]

/-- Small letters for the capital ones of ASCII. -/
def lower (text : String) : String :=
  String.ofList (text.toList.map Char.toLower)

/-- The icon with this name: a meaning in any case, else a name in the icon font. -/
def lookup (name : String) : Option Icon :=
  let name := Text.trim name
  let byMeaning := table.find? fun (meaning, _) => lower meaning = lower name
  let byGlyph := table.find? fun (_, icon) => icon.glyphName = name
  (byMeaning.or byGlyph).map (·.2)

/-- The icon with this name, or the fallback. -/
def named (name : String) : Icon :=
  (lookup name).getD fallback

/-- The text of an icon. A name of one or two characters that is not in the table is a symbol
already. -/
def symbolOf (name : String) : String :=
  match lookup name with
  | some icon => icon.symbol
  | none =>
    let name := Text.trim name
    if name.length = 1 ∨ name.length = 2 then name else fallback.symbol

end Icon

end Wireframe
