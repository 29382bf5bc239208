/-!
# Release
-/

namespace Wirework

def release : String := "0.1.0"

end Wirework
