/-!
# Version

The version of the engine, as hosts are told.
-/

namespace Wireframe

def version : String := "0.1.0"

end Wireframe
