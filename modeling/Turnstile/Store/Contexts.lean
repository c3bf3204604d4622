import Turnstile.Contexts
import Turnstile.Store.Basic

/-!
Context rows in the store. The global row of an account stands under the empty merchant id and
excludes all others.
-/

namespace Turnstile.Store

def contextRows (s : Store) (user : Uuid) : List ContextRow :=
  (s.contexts.toList.filter (·.1.1 = user)).map fun e => ⟨e.1.2, e.2⟩

def dropContexts (user : Uuid) (s : Store) : Store :=
  { s with contexts := s.contexts.filter fun k _ => k.1 ≠ user }

/-- Binds an account to a merchant and ends its being global. -/
def addMerchant (user : Uuid) (merchant : String) (s : Store) : Except Error Unit × Store :=
  if user ∈ s.accounts then
    (.ok (), { s with contexts := (s.contexts.erase (user, "")).insert (user, merchant) false })
  else (.error (.notFound "user"), s)

/-- Becoming global drops every merchant; ceasing to be keeps them. -/
def setGlobal (user : Uuid) (isGlobal : Bool) (s : Store) : Except Error Unit × Store :=
  if user ∈ s.accounts then
    let s := if isGlobal then
        let s := s.dropContexts user
        { s with contexts := s.contexts.insert (user, "") true }
      else { s with contexts := s.contexts.erase (user, "") }
    (.ok (), s)
  else (.error (.notFound "user"), s)

def deleteMerchant (user : Uuid) (merchant : String) (s : Store) : Bool × Store :=
  (s.contexts.contains (user, merchant), { s with contexts := s.contexts.erase (user, merchant) })

/-- Tells how many rows there were. -/
def deleteContexts (user : Uuid) (s : Store) : Nat × Store :=
  ((s.contextRows user).length, s.dropContexts user)

end Turnstile.Store
