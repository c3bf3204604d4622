import Turnstile.Store.Contexts
import Turnstile.Store.Credentials
import Turnstile.Store.Ledger
import Turnstile.Store.Rights

/-!
The calls that operations make on a store, as data, so that they can be put to any store. What they
mean is said by the store that is kept in memory.
-/

namespace Turnstile

/-- A call, by the type of what it answers. -/
inductive StoreCall : Type → Type where
  | insertAccount (a : NewAccount) (now : Instant) : StoreCall Unit
  | accountExists (phone : String) (email : Option String) : StoreCall Bool
  | accountByPhone (phone : String) : StoreCall (Option Account)
  | account (id : Uuid) : StoreCall (Option Account)
  | updateCredentials (id : Uuid) (phone passwordHash : String) (now : Instant) : StoreCall Bool
  | saveRefresh (id : Uuid) (grant : RefreshGrant) : StoreCall Unit
  | refreshOwner (digest : Bytes) (now : Instant) : StoreCall (Option Uuid)
  | rotateRefresh (id : Uuid) (current : Bytes) (next : RefreshGrant) : StoreCall Bool
  | revokeRefresh (digest : Bytes) : StoreCall Bool
  | failedLogins (phone : String) : StoreCall (Option FailedLogins)
  | countFailure (phone : String) : StoreCall Nat
  | setBlocked (phone : String) (til : Option Instant) : StoreCall Unit
  | purgeFailures (phone : String) : StoreCall Unit
  | rights (id : Uuid) : StoreCall (Option Rights)
  | grantRights (id : Uuid) (r : Rights) : StoreCall Bool
  | replaceRights (id : Uuid) (r : Rights) : StoreCall Bool
  | updateRights (id : Uuid) (change : Rights → Except Error Rights) : StoreCall Rights
  | insertRole (r : Role) : StoreCall Unit
  | updateRole (r : Role) : StoreCall Bool
  | deleteRole (id : Uuid) : StoreCall Bool
  | role (id : Uuid) : StoreCall (Option Role)
  | roles : StoreCall (List Role)
  | addMerchant (user : Uuid) (merchant : String) : StoreCall Unit
  | setGlobal (user : Uuid) (isGlobal : Bool) : StoreCall Unit
  | contextRows (user : Uuid) : StoreCall (List ContextRow)
  | deleteMerchant (user : Uuid) (merchant : String) : StoreCall Bool
  | deleteContexts (user : Uuid) : StoreCall Nat

namespace StoreCall

variable {α : Type}

/-- A call that is always answered. -/
def answered (r : α × Store) : Except Error α × Store := (.ok r.1, r.2)

def onStore : StoreCall α → Store → Except Error α × Store
  | insertAccount a now, s => s.insertAccount a now
  | accountExists phone email, s => (.ok (s.accountExists phone email), s)
  | accountByPhone phone, s => (.ok (s.accountByPhone? phone), s)
  | account id, s => (.ok (s.account? id), s)
  | updateCredentials id phone hash now, s => s.updateCredentials id phone hash now
  | saveRefresh id grant, s => s.saveRefresh id grant
  | refreshOwner digest now, s => (.ok (s.refreshOwner? digest now), s)
  | rotateRefresh id current next, s => answered (s.rotateRefresh id current next)
  | revokeRefresh digest, s => answered (s.revokeRefresh digest)
  | failedLogins phone, s => (.ok (s.failedLogins? phone), s)
  | countFailure phone, s => answered (s.countFailure phone)
  | setBlocked phone til, s => (.ok (), s.setBlocked phone til)
  | purgeFailures phone, s => (.ok (), s.purgeFailures phone)
  | rights id, s => (.ok (s.rights? id), s)
  | grantRights id r, s => answered (s.grantRights id r)
  | replaceRights id r, s => answered (s.replaceRights id r)
  | updateRights id change, s => s.updateRights id change
  | insertRole r, s => s.insertRole r
  | updateRole r, s => s.updateRole r
  | deleteRole id, s => answered (s.deleteRole id)
  | role id, s => (.ok (s.role? id), s)
  | roles, s => (.ok s.roleList, s)
  | addMerchant user merchant, s => s.addMerchant user merchant
  | setGlobal user isGlobal, s => s.setGlobal user isGlobal
  | contextRows user, s => (.ok (s.contextRows user), s)
  | deleteMerchant user merchant, s => answered (s.deleteMerchant user merchant)
  | deleteContexts user, s => answered (s.deleteContexts user)

end StoreCall

end Turnstile
