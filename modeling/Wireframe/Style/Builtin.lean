import Wireframe.Style.Basic

/-!
# Built-in styles

The styles that every wireframe can name without declaring them.
-/

namespace Wireframe.Style

/-- The built-in styles and their names. -/
def builtins : Entries Style :=
  [("primary-button", (raised .level1 .primary).withVariant .filled |>.withText .labelLarge),
    ("secondary-button", (raised .level1 .secondary).withVariant .tonal |>.withText .labelLarge),
    ("card-default", raised .level1 .surface),
    ("card-elevated", (raised .level3 .surface).withVariant .elevated),
    ("card-outlined", (raised .level0 .surface).withVariant .outlined),
    ("text-headline", (raised .level0 .surface).withText .headlineMedium),
    ("text-body", (raised .level0 .surface).withText .bodyMedium),
    ("text-caption", (raised .level0 .surface).withText .labelSmall),
    ("surface-primary", raised .level1 .surface),
    ("surface-secondary", raised .level2 .surface),
    ("surface-elevated", raised .level3 .surface),
    ("surface-modal", raised .level4 .surface),
    ("surface-overlay", raised .level5 .surface),
    ("button-outlined", (raised .level0 .primary).withVariant .outlined |>.withText .labelLarge),
    ("button-text", (raised .level0 .primary).withVariant .text |>.withText .labelLarge),
    ("button-destructive", (raised .level1 .error).withVariant .tonal |>.withText .labelLarge),
    ("status-success", raised .level1 .success),
    ("status-warning", raised .level1 .warning),
    ("status-error", raised .level1 .error),
    ("status-info", raised .level1 .primary)]

/-- The built-in style with exactly this name. -/
def builtin? (name : String) : Option Style :=
  builtins.get? name

/-- The built-in style with this name, or the empty one. -/
def builtin (name : String) : Style :=
  (builtin? name).getD empty

end Wireframe.Style
