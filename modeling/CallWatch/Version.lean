/-!
The version of the program and of its parts.
-/

namespace CallWatch

def version : String := "0.4.0"

/-- The seven parts are released together, under one version. -/
def partVersions : List String := List.replicate 7 version

end CallWatch
