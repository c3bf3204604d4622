import Turnstile.Proofs.Admission
import Turnstile.Proofs.Inputs

/-! Refresh tokens as texts. A token is the random bytes in other words: they can be read off it
again. It is made of letters, digits and two more characters that neither JSON nor header lines
change, and it is never empty. -/
namespace Turnstile

namespace Token.Refresh

variable {b : Bytes}

theorem toList_ofBytes (b : Bytes) : (ofBytes b).toList = Base64.encode .urlSafe b :=
  String.toList_ofList

theorem decode?_ofBytes (b : Bytes) : Base64.decode? .urlSafe (ofBytes b).toList = some b := by
  rw [toList_ofBytes, Base64.decode?_encode]

theorem ofBytes_injective {b b' : Bytes} (h : ofBytes b = ofBytes b') : b = b' := by
  have hdecoded := decode?_ofBytes b
  rw [h, decode?_ofBytes] at hdecoded
  exact (Option.some.inj hdecoded).symm

theorem length_ofBytes (h : b.length = randomLength) : (ofBytes b).toList.length = 43 := by
  rw [toList_ofBytes, Base64.length_encode, h]
  rfl

/-- What holds of the alphabet holds of every character of a token. -/
theorem forall_mem_ofBytes {p : Char → Prop} (h : ∀ m : Fin 64, p (Base64.Alphabet.urlSafe.char m))
    (b : Bytes) : ∀ c ∈ (ofBytes b).toList, p c := by
  rw [toList_ofBytes]
  exact Base64.forall_mem_encode h b

theorem ofBytes_ne_empty (h : b.length = randomLength) : ofBytes b ≠ "" := by
  intro hempty
  have hlength := length_ofBytes h
  rw [hempty] at hlength
  cases hlength

/-- Nothing in a token is escaped. -/
theorem quoted_ofBytes (b : Bytes) :
    Json.quoted (ofBytes b) = '"' :: (ofBytes b).toList ++ ['"'] := by
  have hplain := forall_mem_ofBytes (p := fun c => Json.escapeChar c = [c]) (by decide) b
  rw [Json.quoted, List.flatMap_congr hplain, List.flatMap_singleton']

end Token.Refresh

namespace Http

theorem utf8ByteSize_le (s : List Char) : (String.ofList s).utf8ByteSize ≤ 4 * s.length := by
  rw [String.utf8ByteSize_ofList]
  induction s with
  | nil => simp
  | cons c s ih =>
    have hc := c.utf8Size_le_four
    rw [String.utf8Len_cons, List.length_cons]
    omega

/-- A body with a token in it, as a client writes it. -/
def tokenBody (token : String) : String := Json.render (.record [("refreshToken", .text token)])

/-- A body with a token of 32 bytes is far below the limit. -/
theorem utf8ByteSize_tokenBody {b : Bytes} (h : b.length = Token.Refresh.randomLength) :
    (tokenBody (Token.Refresh.ofBytes b)).utf8ByteSize ≤ bodyLimit := by
  have hname : (Json.quoted "refreshToken").length = 14 := by decide
  have hlength : (Json.chars (.record [("refreshToken", .text (Token.Refresh.ofBytes b))])).length =
      62 := by
    simp [Json.chars, Json.memberChars, hname, Token.Refresh.quoted_ofBytes,
      Token.Refresh.length_ofBytes h]
  refine (utf8ByteSize_le _).trans ?_
  rw [hlength]
  decide

open Json in
theorem body_refreshToken {token : String} {r : Request} (hmedia : r.headers.sayJson = true)
    (hlimit : r.body.utf8ByteSize ≤ bodyLimit) (hbody : r.body = tokenBody token) :
    body .refreshToken r = .ok token := by
  have htakes : Takes (record true [Schema.text "refreshToken"])
      (.record [("refreshToken", .text token)]) (.record [("refreshToken", .text token)]) := by
    refine record_takes ?_ (by simp [Schema.text])
    exact .cons (fieldReader_of_find? (f := Schema.text "refreshToken") rfl rfl) (text_takes _)
      (.nil _)
  have hread := htakes [] nofun
  rw [List.append_nil] at hread
  have hfront : readFront (Schema.refreshToken).read (wire (.ofText r.body)) =
      .ok (.record [("refreshToken", .text token)]) := by
    rw [hbody, tokenBody, render, wire_ofText, String.toList_ofList]
    exact congrArg (Except.map Prod.fst) hread
  unfold body readBody
  rw [hmedia, if_neg (Nat.not_lt.mpr hlimit), hfront]
  rfl

theorem operation_of_tokenBody {token : String} {r : Request} (hmedia : r.headers.sayJson = true)
    (hlimit : r.body.utf8ByteSize ≤ bodyLimit) (hbody : r.body = tokenBody token) :
    Call.refresh.operation [] r = .ok (.refresh token) ∧
      Call.logout.operation [] r = .ok (.logout token) := by
  have hread := body_refreshToken hmedia hlimit hbody
  constructor
  · show (body .refreshToken r >>= fun t => pure (Operation.refresh t)) = _
    rw [hread]
    rfl
  · show (body .refreshToken r >>= fun t => pure (Operation.logout t)) = _
    rw [hread]
    rfl

end Http

/-- The texts that are refused as no token at all are the empty one only. -/
theorem Event.invalid_token_iff {o : Operation} {token : String}
    (ho : o = .refresh token ∨ o = .logout token) (c : Settings) (now : Circumstances)
    (db : Database) :
    (∃ message, (Event.answer c ⟨now, o⟩ db).1 = .error (.validation message)) ↔ token = "" := by
  have hinput : o.inputError? =
      if token = "" then some (.validation "refresh token is required") else none := by
    rcases ho with rfl | rfl <;> rfl
  constructor
  · rintro ⟨message, h⟩
    by_contra hne
    rw [if_neg hne] at hinput
    have hblameless : (o.action c now).Blameless := (o.checked c now).late hinput
    exact hblameless db _ h rfl
  · intro hempty
    rw [if_pos hempty] at hinput
    exact ⟨_, congrArg Prod.fst (Operation.perform_of_inputError hinput c now db)⟩

open Token.Refresh in
/-- The token of 32 bytes is read back as these bytes, so that different bytes have different
tokens. It is 43 letters, digits, hyphens and underscores. It stands in JSON as it is, and is read
from a body or a header line as it is, whatever spaces are around it; and neither a refresh nor a
logout ever refuses it as being no token. -/
theorem refresh_tokens_keep_randomness {b : Bytes} (h : b.length = randomLength) :
    Base64.decode? .urlSafe (ofBytes b).toList = some b ∧
    (∀ b' : Bytes, b'.length = randomLength → ofBytes b' = ofBytes b → b' = b) ∧
    (ofBytes b).toList.length = 43 ∧
    (∀ ch ∈ (ofBytes b).toList, ch.isAlphanum = true ∨ ch = '-' ∨ ch = '_') ∧
    ofBytes b ≠ "" ∧
    Json.quoted (ofBytes b) = '"' :: (ofBytes b).toList ++ ['"'] ∧
    (∀ r : Http.Request, r.headers.sayJson = true → r.body = Http.tokenBody (ofBytes b) →
      Http.Call.refresh.operation [] r = .ok (.refresh (ofBytes b)) ∧
      Http.Call.logout.operation [] r = .ok (.logout (ofBytes b))) ∧
    (∀ (headers : Http.Headers) (name : String), headers.first? name = some (ofBytes b) →
      headers.visible? name = some (ofBytes b)) ∧
    (∀ (headers : Http.Headers) (m n : Nat),
      headers.first? "authorization" = some (String.ofList ("Bearer".toList ++ ' ' ::
        (List.replicate m ' ' ++ (ofBytes b).toList ++ List.replicate n ' '))) →
      headers.bearer? = some (ofBytes b)) ∧
    ∀ (c : Settings) (now : Circumstances) (db : Database) (message : String),
      (Event.answer c ⟨now, .refresh (ofBytes b)⟩ db).1 ≠ .error (.validation message) ∧
      (Event.answer c ⟨now, .logout (ofBytes b)⟩ db).1 ≠ .error (.validation message) := by
  have hne : ofBytes b ≠ "" := ofBytes_ne_empty h
  have hvisible : ∀ ch ∈ (ofBytes b).toList, Http.Headers.isVisible ch = true :=
    forall_mem_ofBytes (by decide) b
  have hblank : ∀ ch ∈ (ofBytes b).toList, Text.isBlank ch = false :=
    forall_mem_ofBytes (by decide) b
  refine ⟨decode?_ofBytes b, fun _ _ => ofBytes_injective, length_ofBytes h,
    forall_mem_ofBytes (by decide) b, hne, quoted_ofBytes b, ?_, ?_, ?_, ?_⟩
  · intro r hmedia hbody
    refine Http.operation_of_tokenBody hmedia ?_ hbody
    rw [hbody]
    exact Http.utf8ByteSize_tokenBody h
  · intro headers name hfirst
    rw [Http.Headers.visible?, hfirst, Option.filter_some, if_pos (List.all_eq_true.mpr hvisible)]
  · intro headers m n hfirst
    exact Http.bearer?_padded (by decide) (fun hnil => hne (String.toList_eq_nil_iff.mp hnil))
      hvisible hblank hfirst
  · intro c now db message
    exact ⟨fun he => hne ((Event.invalid_token_iff (.inl rfl) c now db).mp ⟨_, he⟩),
      fun he => hne ((Event.invalid_token_iff (.inr rfl) c now db).mp ⟨_, he⟩)⟩

/-- The bytes from 0 to 31, and a request that brings their token. -/
theorem counting_token_kept :
    let b : Bytes := (List.range 32).map UInt8.ofNat
    let token := "AAECAwQFBgcICQoLDA0ODxAREhMUFRYXGBkaGxwdHh8"
    let r : Http.Request := ⟨.post, "/v1/auth/refresh", [("Content-Type", "application/json")],
      "\x7b\"refreshToken\":\"AAECAwQFBgcICQoLDA0ODxAREhMUFRYXGBkaGxwdHh8\"\x7d"⟩
    Token.Refresh.ofBytes b = token ∧ Base64.decode? .urlSafe token.toList = some b ∧
      Http.Call.refresh.operation [] r = .ok (.refresh token) ∧
      Http.Headers.bearer? [("Authorization", "Bearer " ++ token ++ " ")] = some token := by
  intro b token r
  have htoken : Token.Refresh.ofBytes b = token := by decide +kernel
  obtain ⟨hdecoded, -, -, -, -, -, hbody, -, hbearer, -⟩ :=
    refresh_tokens_keep_randomness (b := b) (by decide)
  rw [htoken] at hdecoded hbody hbearer
  exact ⟨htoken, hdecoded, (hbody r (by decide +kernel) (by decide +kernel)).1,
    hbearer _ 0 1 (by decide +kernel)⟩

end Turnstile
