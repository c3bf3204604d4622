import Turnstile.Json.Value
import Turnstile.Text.Blank
import Turnstile.Uuid

/-!
Merchant scoping. A user is bound to any number of merchants, or is global, which is one row with an
empty merchant id. Reading aggregates the rows of a user.
-/

namespace Turnstile

structure ContextRow where
  merchantId : String
  isGlobal : Bool
  deriving DecidableEq, Repr

structure UserContexts where
  userId : Uuid
  merchantIds : List String
  isGlobal : Bool
  deriving DecidableEq, Repr

namespace UserContexts

/-- Merchant ids in byte order, each once; blank ones are left out. -/
def ofRows (userId : Uuid) (rows : List ContextRow) : UserContexts where
  userId := userId
  merchantIds :=
    (((rows.map ContextRow.merchantId).filter (· ≠ "")).mergeSort (fun a b => decide (a ≤ b))).eraseReps
  isGlobal := rows.any ContextRow.isGlobal

def joined (c : UserContexts) : String := ",".intercalate c.merchantIds

def toValue (c : UserContexts) : Json.Value :=
  .record [("user_id", .text c.userId.hyphenated), ("merchant_ids", .texts c.merchantIds),
    ("global", .flag c.isGlobal)]

end UserContexts

namespace Merchant

def isIdChar (c : Char) : Bool := c.isAlphanum || c = '_' || c = '-'

/-- One to 64 ASCII letters, digits, underscores and hyphens. -/
def validId (s : String) : Bool :=
  decide (1 ≤ s.toList.length) && decide (s.toList.length ≤ 64) && s.toList.all isIdChar

end Merchant

end Turnstile
