import Turnstile.Database
import Turnstile.Store.Contexts

/-!
Binding users to merchants, or making them global.
-/

namespace Turnstile.Scoping

def get (user : Uuid) : Action UserContexts := do
  return UserContexts.ofRows user (← Action.query (·.contextRows user))

/-- A merchant id is looked at only if the user is not to be global. -/
def add (user : Uuid) (merchant : Option String) (isGlobal : Bool) : Action UserContexts := do
  if isGlobal then
    Action.call (Store.setGlobal user true)
  else
    let merchant := Text.trim (merchant.getD "")
    Action.require (Merchant.validId merchant)
      (.validation "merchant id is required unless the context is global")
    Action.call (Store.addMerchant user merchant)
  get user

def edit (user : Uuid) (isGlobal : Bool) : Action UserContexts := do
  Action.call (Store.setGlobal user isGlobal)
  get user

def delete (user : Uuid) (merchant : String) : Action Unit := do
  let merchant := Text.trim merchant
  if merchant = "" then throw (.notFound "user context")
  Action.require (← Action.change (Store.deleteMerchant user merchant)) (.notFound "user context")

def deleteAll (user : Uuid) : Action Nat := Action.change (Store.deleteContexts user)

end Turnstile.Scoping
