import Turnstile.Password.Hash
import Turnstile.Proofs.Encodings

/-! Stored passwords. A password hash is text that is split at its dollar signs again when a
password is checked against it, so a password is accepted against every hash made of it. -/
namespace Turnstile

/-! Digests have the length that is asked for. -/

namespace Blake2b

theorem size_compress (h : Array UInt64) (block : Bytes) (count : Nat) (last : Bool) :
    (compress h block count last).size = 8 := by
  unfold compress
  exact Array.size_ofFn

theorem size_absorb {total : Nat} {h : Array UInt64} (hsize : h.size = 8) (count : Nat)
    (blocks : List Bytes) : (absorb total h count blocks).size = 8 := by
  fun_induction absorb total h count blocks with
  | case1 => exact hsize
  | case2 => exact size_compress ..
  | case3 h count block rest hrest ih => exact ih (size_compress ..)

theorem length_digest {length : Nat} (hlength : length ≤ 64) (message : Bytes) :
    (digest length message).length = length := by
  have hsize : (absorb message.length (initial.modify 0 (· ^^^ UInt64.ofNat (0x01010000 + length)))
      0 (blocks message)).size = 8 := size_absorb (by simp [initial]) _ _
  unfold digest
  dsimp only
  rw [List.length_take, List.length_flatMap]
  simp only [Bytes.length_littleEndian, List.map_const', List.sum_replicate_nat,
    Array.length_toList, hsize]
  omega

end Blake2b

theorem Argon2.length_tag {p : Params} (h : p.tagLength ≤ 64) (password salt : Bytes) :
    (tag p password salt).length = p.tagLength := by
  unfold tag longDigest
  dsimp only
  rw [if_pos h, Blake2b.length_digest h]

namespace Password

/-! Fields. -/

theorem Phc.value?_encode {b : Bytes} (h : (Base64.encode .standard b).length ≤ 64) :
    value? (Base64.encode .standard b) = some (Base64.encodeText .standard b) := by
  have hall : (Base64.encode .standard b).all isValueChar = true :=
    List.all_eq_true.mpr (Base64.forall_mem_encode (by decide) b)
  rw [value?, if_pos ⟨h, hall⟩]
  rfl

theorem Phc.salt?_encode {b : Bytes} (h : 3 ≤ b.length ∧ b.length ≤ 48) :
    salt? (Base64.encode .standard b) = some (Base64.encodeText .standard b) := by
  have hlength := Base64.length_encode .standard b
  unfold salt? minSaltLength maxSaltLength
  rw [if_pos (by omega), value?_encode (by omega)]

theorem Phc.output?_encode {b : Bytes} (h : 10 ≤ b.length ∧ b.length ≤ 64) :
    output? (Base64.encode .standard b) = some b := by
  unfold output?
  rw [Base64.decode?_encode]
  simp [h]

theorem Phc.takeVersion_cons {digits : List Char} {version : Nat} (hcomma : ',' ∉ digits)
    (hversion : decimal? digits = some version) (rest : List (List Char)) :
    takeVersion (('v' :: '=' :: digits) :: rest) = some (some version, rest) := by
  simp [takeVersion, hcomma, hversion]

theorem Phc.takeParams_cons {field : List Char} {ps : List (String × String)} (heq : '=' ∈ field)
    (hparams : params? field = some ps) (rest : List (List Char)) :
    takeParams (field :: rest) = some (ps, rest) := by
  simp [takeParams, heq, hparams]

/-- The fields of a hash made here. -/
def fields (salt tag : Bytes) : List (List Char) :=
  ["argon2id".toList, "v=19".toList, "m=19456,t=2,p=1".toList, Base64.encode .standard salt,
    Base64.encode .standard tag]

theorem render_toPhc (salt tag : Bytes) :
    (toPhc salt tag).render.toList = (fields salt tag).flatMap ('$' :: ·) := by
  have hfront : "$" ++ "argon2id" ++ s!"$v={19}" ++
      ("$" ++ Phc.commaSeparated [("m", "19456"), ("t", "2"), ("p", "1")]) =
        "$argon2id$v=19$m=19456,t=2,p=1" := by decide
  change ("$" ++ "argon2id" ++ s!"$v={19}" ++
    ("$" ++ Phc.commaSeparated [("m", "19456"), ("t", "2"), ("p", "1")]) ++
    ("$" ++ Base64.encodeText .standard salt) ++
    ("$" ++ Base64.encodeText .standard tag)).toList = _
  rw [hfront]
  simp [fields, Base64.encodeText]

/-- Fields without a dollar sign, each put after one, are split apart again. -/
theorem splitOn_flatMap {fs : List (List Char)} (h : ∀ f ∈ fs, '$' ∉ f) :
    (fs.flatMap ('$' :: ·)).splitOn '$' = [] :: fs := by
  have hfield : ∀ {f fs : List _}, '$' ∉ f → (∀ f ∈ fs, '$' ∉ f) →
      (f ++ fs.flatMap ('$' :: ·)).splitOn '$' = f :: fs := by
    intro f fs hf hfs
    induction fs generalizing f with
    | nil => simp [List.splitOn_eq_singleton, hf]
    | cons g fs ih =>
      rw [List.flatMap_cons, List.cons_append, List.splitOn_append_cons_self_of_not_mem hf,
        ih (hfs g (by simp)) fun f hf => hfs f (by simp [hf])]
  exact hfield (List.not_mem_nil) h

theorem not_mem_fields (salt tag : Bytes) : ∀ f ∈ fields salt tag, '$' ∉ f := by
  have hencode (b : Bytes) : '$' ∉ Base64.encode .standard b :=
    fun h => Base64.forall_mem_encode (p := ('$' ≠ ·)) (by decide) b _ h rfl
  simp [fields, hencode]

/-- A hash made here is read back as what it was made of. -/
theorem parse?_render {salt tag : Bytes} (hsalt : 3 ≤ salt.length ∧ salt.length ≤ 48)
    (htag : 10 ≤ tag.length ∧ tag.length ≤ 64) :
    Phc.parse? (toPhc salt tag).render = some (toPhc salt tag) := by
  have halgorithm : Phc.ident? "argon2id".toList = some "argon2id" := by decide
  have hversion (rest : List (List Char)) :
      Phc.takeVersion ("v=19".toList :: rest) = some (some 19, rest) :=
    Phc.takeVersion_cons (by decide) (by decide) rest
  have hparams (rest : List (List Char)) : Phc.takeParams ("m=19456,t=2,p=1".toList :: rest) =
      some ([("m", "19456"), ("t", "2"), ("p", "1")], rest) :=
    Phc.takeParams_cons (by decide) (by decide) rest
  unfold Phc.parse? Phc.ofText?
  rw [render_toPhc, splitOn_flatMap (not_mem_fields salt tag)]
  simp only [fields, halgorithm, hversion, hparams, Phc.takeSaltAndOutput, Phc.salt?_encode hsalt,
    Phc.output?_encode htag, bind, Option.bind, pure]
  rfl

theorem ofPhc?_toPhc {salt tag : Bytes} (hsalt : 8 ≤ salt.length) (htag : tag.length = 32) :
    Stored.ofPhc? (toPhc salt tag) = some ⟨defaults, salt, tag⟩ := by
  have hparams : [("m", "19456"), ("t", "2"), ("p", "1")].foldlM withParam defaults =
      some defaults := by decide
  have hdecode :
      Base64.decode? .standard (Base64.encodeText .standard salt).toList = some salt := by
    rw [Base64.encodeText, String.toList_ofList, Base64.decode?_encode]
  unfold Stored.ofPhc?
  simp only [toPhc, hparams, hdecode, variant?, version?, htag, bind, Option.bind, Option.map,
    Option.getD]
  exact if_pos ⟨by decide, hsalt⟩

/-- Every password is accepted against its own hash, whatever the salt. -/
theorem verify_hash {salt : Bytes} (h : salt.length = saltLength) (password : String) :
    verify password (hash salt password) = true := by
  have hsalt : salt.length = 16 := h
  have htag : (Argon2.tag defaults (.ofText password) salt).length = 32 :=
    Argon2.length_tag (by decide) _ _
  unfold verify hash
  rw [parse?_render (by omega) (by omega), Option.bind_some, ofPhc?_toPhc (by omega) htag]
  simp

end Password

end Turnstile
