import Turnstile.Store.Basic

/-!
Accounts and refresh tokens in the store. Phones and emails are unique, and a refresh token is swapped
only for the one that is stored.
-/

namespace Turnstile

structure NewAccount where
  id : Uuid
  phone : String
  email : Option String
  passwordHash : String
  firstName : Option String
  lastName : Option String
  deriving DecidableEq, Repr

/-- A fresh account holds no rights and no refresh token. -/
def NewAccount.record (a : NewAccount) (now : Instant) : AccountRecord where
  account :=
    { id := a.id, phone := a.phone, email := a.email, passwordHash := a.passwordHash
      firstName := a.firstName, lastName := a.lastName, roles := [], entitlements := []
      createdAt := now, updatedAt := now }
  rights := .empty
  refresh := none

namespace Store

def phoneTaken (s : Store) (phone : String) : Bool := s.records.any (·.account.phone = phone)

def phoneTakenByOther (s : Store) (phone : String) (id : Uuid) : Bool :=
  s.records.any fun r => r.account.phone = phone ∧ r.account.id ≠ id

def emailTaken (s : Store) (email : String) : Bool := s.records.any (·.account.email = some email)

def accountExists (s : Store) (phone : String) (email : Option String) : Bool :=
  s.phoneTaken phone || email.any s.emailTaken

def insertAccount (a : NewAccount) (now : Instant) (s : Store) : Except Error Unit × Store :=
  if s.accountExists a.phone a.email then (.error (.conflict "user already exists"), s)
  else (.ok (), { s with accounts := s.accounts.insert a.id (a.record now) })

def accountByPhone? (s : Store) (phone : String) : Option Account :=
  (s.records.find? (·.account.phone = phone)).map (·.account)

def account? (s : Store) (id : Uuid) : Option Account := s.accounts[id]?.map (·.account)

/-- Tells whether the account exists; a phone that someone else has is a conflict either way. -/
def updateCredentials (id : Uuid) (phone passwordHash : String) (now : Instant) (s : Store) :
    Except Error Bool × Store :=
  if s.phoneTakenByOther phone id then (.error (.conflict "phone already in use"), s)
  else if id ∈ s.accounts then
    (.ok true, s.modifyAccount id fun r =>
      { r with account :=
        { r.account with phone := phone, passwordHash := passwordHash, updatedAt := now } })
  else (.ok false, s)

def setClaims (id : Uuid) (roles entitlements : List String) (s : Store) : Store :=
  s.modifyAccount id fun r =>
    { r with account := { r.account with roles := roles, entitlements := entitlements } }

def saveRefresh (id : Uuid) (grant : RefreshGrant) (s : Store) : Except Error Unit × Store :=
  if id ∈ s.accounts then (.ok (), s.modifyAccount id fun r => { r with refresh := some grant })
  else (.error (.notFound "user"), s)

def AccountRecord.holds (r : AccountRecord) (digest : Bytes) : Bool :=
  r.refresh.any (·.digest = digest)

/-- Whose refresh token it is, as long as it has not lapsed. -/
def refreshOwner? (s : Store) (digest : Bytes) (now : Instant) : Option Uuid :=
  (s.records.find? fun r => r.refresh.any fun g => g.digest = digest ∧ now < g.expiresAt).map
    (·.account.id)

/-- Swaps a stored token for the next one; tells whether it was still the stored one. -/
def rotateRefresh (id : Uuid) (current : Bytes) (next : RefreshGrant) (s : Store) : Bool × Store :=
  if s.accounts[id]?.any (AccountRecord.holds · current) then
    (true, s.modifyAccount id fun r => { r with refresh := some next })
  else (false, s)

/-- Forgets a token, lapsed or not; tells whether someone held it. -/
def revokeRefresh (digest : Bytes) (s : Store) : Bool × Store :=
  match s.accounts.toList.find? fun e => AccountRecord.holds e.2 digest with
  | some e => (true, s.modifyAccount e.1 fun r => { r with refresh := none })
  | none => (false, s)

end Store

end Turnstile
