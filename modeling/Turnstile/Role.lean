import Turnstile.Rights.Codec
import Turnstile.Text.Blank
import Turnstile.Uuid

/-!
Roles: one of five names, a localized name, notes, and rights that are never empty.
-/

namespace Turnstile

inductive RoleName where
  | admin | manager | operator | merchant | support
  deriving DecidableEq, Repr

namespace RoleName

def all : List RoleName := [.admin, .manager, .operator, .merchant, .support]

theorem mem_all (n : RoleName) : n ∈ all := by cases n <;> decide

def text : RoleName → String
  | .admin => "ADMIN"
  | .manager => "MANAGER"
  | .operator => "OPERATOR"
  | .merchant => "MERCHANT"
  | .support => "SUPPORT"

def parse (s : String) : Except Error RoleName :=
  match all.find? (·.text = s) with
  | some n => .ok n
  | none => .error (.invalidRole s)

@[simp] theorem parse_text (n : RoleName) : parse n.text = .ok n := by cases n <;> rfl

end RoleName

structure Role where
  id : Uuid
  name : RoleName
  localizedName : String
  notes : String
  rights : Rights
  deriving DecidableEq, Repr

/-- A role as it is asked for. -/
structure RoleRequest where
  name : String
  localizedName : String
  notes : String
  rights : Rights.Request

/-- The name is checked first, then the localized name, then the rights. -/
def RoleRequest.validate (q : RoleRequest) (id : Uuid) : Except Error Role := do
  let name ← RoleName.parse (Text.trim q.name)
  let localizedName := Text.trim q.localizedName
  if localizedName = "" then throw (.validation "localized role name is required")
  let rights ← Rights.parseCompact q.rights
  return ⟨id, name, localizedName, Text.trim q.notes, rights⟩

end Turnstile
