import Std.Data.ExtTreeMap
import Turnstile.Digest.Bytes
import Turnstile.Role
import Turnstile.Time

/-!
What is remembered between requests: accounts with their rights and refresh token, the ledger of
failed logins, roles, and merchant contexts. Maps are extensional, so two stores with the same entries
are equal.
-/

namespace Turnstile

structure Account where
  id : Uuid
  phone : String
  email : Option String
  passwordHash : String
  firstName : Option String
  lastName : Option String
  roles : List String
  entitlements : List String
  createdAt : Instant
  updatedAt : Instant
  deriving DecidableEq, Repr

/-- The digest of the one refresh token that an account may hold, and when it lapses. -/
structure RefreshGrant where
  digest : Bytes
  expiresAt : Instant
  deriving DecidableEq, Repr

structure AccountRecord where
  account : Account
  rights : Rights
  refresh : Option RefreshGrant
  deriving DecidableEq, Repr

structure FailedLogins where
  phone : String
  attempts : Nat
  blockedUntil : Option Instant
  deriving DecidableEq, Repr

/-- Context rows are ordered by account first and merchant id second. -/
abbrev ContextKey.cmp : Uuid × String → Uuid × String → Ordering := (@lexOrd Uuid String _ _).compare

structure Store where
  accounts : Std.ExtTreeMap Uuid AccountRecord
  ledger : Std.ExtTreeMap String FailedLogins
  roles : Std.ExtTreeMap Uuid Role
  contexts : Std.ExtTreeMap (Uuid × String) Bool ContextKey.cmp

namespace Store

def empty : Store := ⟨∅, ∅, ∅, ∅⟩

def records (s : Store) : List AccountRecord := s.accounts.toList.map Prod.snd

theorem mem_records {s : Store} {r : AccountRecord} :
    r ∈ s.records ↔ ∃ id : Uuid, s.accounts[id]? = some r := by
  simp [records, Std.ExtTreeMap.mem_toList_iff_getElem?_eq_some]

/-- One account's record changed in place. -/
def modifyAccount (s : Store) (id : Uuid) (f : AccountRecord → AccountRecord) : Store :=
  { s with accounts := s.accounts.modify id f }

end Store

end Turnstile
