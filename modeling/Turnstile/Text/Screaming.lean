import Turnstile.Text.Uppercase

/-!
Identifiers written in capitals, with an underscore between words. Every capital letter but the first
letter starts a word.
-/

namespace Turnstile.Text

def screaming (identifier : String) : String :=
  match identifier.toList with
  | [] => ""
  | c :: rest => String.ofList (c.toUpper :: rest.flatMap fun c =>
      if isUppercase c then ['_', c.toUpper] else [c.toUpper])

end Turnstile.Text
