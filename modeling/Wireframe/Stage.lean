import Wireframe.Document.Basic
import Wireframe.Options
import Wireframe.Styles

/-!
# Stages

A stage is what stays the same while a preview is used: the document, and the options it is shown
with.
-/

namespace Wireframe

structure Stage where
  document : Document
  options : Options

/-- What the styles of the document are resolved against. -/
def Stage.styles (stage : Stage) : Styles :=
  { library := stage.document.styles, preference := stage.options.platform }

end Wireframe
