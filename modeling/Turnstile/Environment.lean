/-!
Environment variables.
-/

namespace Turnstile

abbrev Environment := List (String × String)

def Environment.get? (env : Environment) (name : String) : Option String :=
  (env.find? (·.1 = name)).map Prod.snd

end Turnstile
