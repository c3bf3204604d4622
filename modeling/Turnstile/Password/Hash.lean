import Turnstile.Digest.Argon2
import Turnstile.Password.Phc

/-!
Hashing passwords and checking them against stored hashes. New hashes are Argon2id, version 19, with
19456 KiB of memory, two passes and one lane; a stored hash is checked under the variant, version
and parameters that it names itself.
-/

namespace Turnstile.Password

def variant? : String → Option Argon2.Variant
  | "argon2d" => some .d
  | "argon2i" => some .i
  | "argon2id" => some .id
  | _ => none

def version? : Nat → Option Argon2.Version
  | 16 => some .v16
  | 19 => some .v19
  | _ => none

/-- The numbers in force when a stored hash does not name them. -/
def defaults : Argon2.Params := ⟨.id, .v19, 19456, 2, 1, 32, []⟩

def saltLength : Nat := 16

/-- Applies one named parameter; a name given twice counts the second time. -/
def withParam (p : Argon2.Params) : String × String → Option Argon2.Params
  | ("m", v) => do return { p with memory := ← Phc.decimal? v.toList }
  | ("t", v) => do return { p with passes := ← Phc.decimal? v.toList }
  | ("p", v) => do return { p with lanes := ← Phc.decimal? v.toList }
  | ("keyid", v) => do
    let b ← Base64.decode? .standard v.toList
    if b.length ≤ 8 then some p else none
  | ("data", v) => do
    let b ← Base64.decode? .standard v.toList
    if b.length ≤ 32 then some { p with associated := b } else none
  | _ => none

/-- Every lane has at least two blocks a quarter. -/
def admissible (p : Argon2.Params) : Bool :=
  decide (8 ≤ p.memory) && decide (8 * p.lanes ≤ p.memory) && decide (1 ≤ p.passes) &&
    decide (1 ≤ p.lanes) && decide (p.lanes < 16777216) && decide (4 ≤ p.tagLength)

/-- What a stored hash asks for: the parameters, the salt, and the tag to compare with. -/
structure Stored where
  params : Argon2.Params
  salt : Bytes
  tag : Bytes

def Stored.ofPhc? (h : Phc) : Option Stored := do
  let salt ← h.salt
  let tag ← h.output
  let variant ← variant? h.algorithm
  let version ← (h.version.map version?).getD (some .v19)
  let params ← h.params.foldlM withParam defaults
  let params := { params with variant := variant, version := version, tagLength := tag.length }
  let salt ← Base64.decode? .standard salt.toList
  if admissible params ∧ 8 ≤ salt.length then some ⟨params, salt, tag⟩ else none

def verify (password stored : String) : Bool :=
  match (Phc.parse? stored).bind Stored.ofPhc? with
  | some s => Argon2.tag s.params (.ofText password) s.salt == s.tag
  | none => false

def toPhc (salt tag : Bytes) : Phc where
  algorithm := "argon2id"
  version := some 19
  params := [("m", "19456"), ("t", "2"), ("p", "1")]
  salt := some (Base64.encodeText .standard salt)
  output := some tag

/-- The stored form of a password under a salt. -/
def hash (salt : Bytes) (password : String) : String :=
  (toPhc salt (Argon2.tag defaults (.ofText password) salt)).render

end Turnstile.Password
