/-!
What the service calls itself.
-/

namespace Turnstile.Build

def name : String := "warden"

def version : String := "0.1.0"

def description : String := "User accounts, tokens and role-based access control"

/-- The commit that the service was built from, if that is known. -/
def commit : String := "unknown"

end Turnstile.Build
