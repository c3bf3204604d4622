import Turnstile.Proofs.Payloads

/-! Accepting access tokens. An accepted token carries the one signature that its first two parts
have under the secret, and a token that does not is refused before its payload is looked at. -/
namespace Turnstile

namespace Base64

/-- Only characters of the alphabet are decoded. -/
theorem isSome_value?_of_decode? {a : Alphabet} {s : List Char} {b : Bytes}
    (h : decode? a s = some b) : ∀ c ∈ s, (a.value? c).isSome = true := by
  fun_induction decode? a s generalizing b with
  | case1 w x y z rest ih =>
    simp only [bind, Option.bind_eq_some_iff] at h
    obtain ⟨_, hw, _, hx, _, hy, _, hz, rest', hrest, -⟩ := h
    simpa [hw, hx, hy, hz] using ih hrest
  | case2 w x y =>
    simp only [bind, Option.bind_eq_some_iff] at h
    obtain ⟨_, hw, _, hx, _, hy, -⟩ := h
    simp [hw, hx, hy]
  | case3 w x =>
    simp only [bind, Option.bind_eq_some_iff] at h
    obtain ⟨_, hw, _, hx, -⟩ := h
    simp [hw, hx]
  | case4 => cases h
  | case5 => simp

theorem not_mem_of_decode? {a : Alphabet} {s : List Char} {b : Bytes} (h : decode? a s = some b) :
    '.' ∉ s := by
  intro hmem
  have hdot := isSome_value?_of_decode? h '.' hmem
  cases a <;> revert hdot <;> decide

theorem not_mem_encode (a : Alphabet) (b : Bytes) : '.' ∉ encode a b :=
  fun hdot => forall_mem_encode (p := ('.' ≠ ·)) (by cases a <;> decide) b '.' hdot rfl

end Base64

namespace Token

/-! Parts. -/

theorem splitLast?_append {a b : List Char} (hb : '.' ∉ b) :
    splitLast? (a ++ '.' :: b) = some (a, b) := by
  unfold splitLast?
  dsimp only
  rw [takeWhile_ne_reverse a hb, if_neg (by simp; omega)]
  have hlen : (a ++ '.' :: b).length - b.reverse.length - 1 = a.length := by simp; omega
  rw [hlen, List.take_left, List.reverse_reverse]

theorem splitLast?_eq_none {s : List Char} (hs : '.' ∉ s) : splitLast? s = none := by
  unfold splitLast?
  dsimp only
  rw [takeWhile_ne_of_not_mem (by simpa using hs), if_pos List.length_reverse]

/-- A text is split at its last dot. -/
theorem splitLast?_eq_some_iff {s a b : List Char} :
    splitLast? s = some (a, b) ↔ s = a ++ '.' :: b ∧ '.' ∉ b := by
  constructor
  · intro h
    by_cases hs : '.' ∈ s
    · obtain ⟨a', b', rfl, hdot⟩ := exists_last_separator hs
      rw [splitLast?_append hdot] at h
      cases h
      exact ⟨rfl, hdot⟩
    · rw [splitLast?_eq_none hs] at h
      cases h
  · rintro ⟨rfl, hb⟩
    exact splitLast?_append hb

/-- A token text of two parts and a signature. -/
def joined (header payload sig : List Char) : List Char := signingInput header payload ++ '.' :: sig

theorem parts?_eq_some_iff {token : List Char} {p : Parts} :
    parts? token = some p ↔
      token = joined p.header p.payload p.signature ∧ '.' ∉ p.payload ∧ '.' ∉ p.signature := by
  unfold parts? joined signingInput
  constructor
  · intro h
    simp only [bind, Option.bind_eq_some_iff] at h
    obtain ⟨⟨input, sig⟩, hinput, ⟨header, payload⟩, hparts, h⟩ := h
    cases h
    obtain ⟨rfl, hsig⟩ := splitLast?_eq_some_iff.mp hinput
    obtain ⟨rfl, hpayload⟩ := splitLast?_eq_some_iff.mp hparts
    exact ⟨rfl, hpayload, hsig⟩
  · rintro ⟨rfl, hpayload, hsig⟩
    simp only [splitLast?_append hsig, splitLast?_append hpayload, bind, Option.bind, pure]

theorem parts?_joined (header : List Char) {payload sig : List Char} (hpayload : '.' ∉ payload)
    (hsig : '.' ∉ sig) : parts? (joined header payload sig) = some ⟨header, payload, sig⟩ :=
  parts?_eq_some_iff.mpr ⟨rfl, hpayload, hsig⟩

/-- A text with two dots has only one reading as a token. -/
theorem joined_inj {header payload sig header' payload' sig' : List Char}
    (hheader : '.' ∉ header) (hpayload : '.' ∉ payload) (hsig : '.' ∉ sig)
    (h : joined header payload sig = joined header' payload' sig') :
    header = header' ∧ payload = payload' ∧ sig = sig' := by
  have hcount := congrArg (List.count '.') h
  simp only [joined, signingInput, List.count_append, List.count_cons_self,
    List.count_eq_zero.mpr hheader, List.count_eq_zero.mpr hpayload,
    List.count_eq_zero.mpr hsig] at hcount
  have hpayload' : '.' ∉ payload' := List.count_eq_zero.mp (by omega)
  have hsig' : '.' ∉ sig' := List.count_eq_zero.mp (by omega)
  have hparts := parts?_joined header hpayload hsig
  have hparts' : parts? (joined header payload sig) = some ⟨header', payload', sig'⟩ :=
    parts?_eq_some_iff.mpr ⟨h, hpayload', hsig'⟩
  rw [hparts] at hparts'
  cases hparts'
  exact ⟨rfl, rfl, rfl⟩

theorem not_mem_signature (secret : String) (input : List Char) : '.' ∉ signature secret input :=
  Base64.not_mem_encode _ _

variable {d : Decoding} {secret : String}

/-- A payload is accepted for the claims it reads as, no later than they say. -/
theorem acceptPayload_eq_ok (hd : d.Coherent) {now : Int} {payload : List Char} {c : Claims}
    (h : acceptPayload d now payload = .ok c) :
    ∃ b, Base64.decode? .urlSafe payload = some b ∧ d.claims? b = some c ∧ now ≤ c.expiresAt := by
  unfold acceptPayload at h
  split at h
  next => cases h
  next b hb =>
    split at h
    next claims r hclaims hr =>
      have hexp := hd hclaims hr
      split at h
      next => cases h
      next =>
        split at h
        next => cases h
        next hnow =>
          split at h
          next => cases h
          next =>
            cases h
            exact ⟨b, hb, hclaims, by omega⟩
    next => cases h

/-! Tokens. -/

/-- What comes of the header alone, unless the signature is right. -/
def refusal (d : Decoding) (header : List Char) : Error :=
  match (Base64.decode? .urlSafe header).bind d.algorithm? with
  | none => .invalidAccessToken
  | some _ => .invalidSignature

/-- With a wrong signature, the header decides. -/
theorem verifyWith_joined_of_ne (d : Decoding) (now : Instant) {header payload sig : List Char}
    (hpayload : '.' ∉ payload) (hsig : '.' ∉ sig)
    (hne : sig ≠ signature secret (signingInput header payload)) :
    verifyWith d secret now (String.ofList (joined header payload sig)) =
      .error (refusal d header) := by
  unfold verifyWith refusal
  rw [String.toList_ofList, parts?_joined header hpayload hsig]
  dsimp only
  cases (Base64.decode? .urlSafe header).bind d.algorithm? with
  | none => rfl
  | some a =>
    dsimp only
    rw [if_pos hne]
    split <;> rfl

/-- A token is refused for its form or its signature, or it has three parts with the right signature
under the one algorithm in use, and its payload decides. -/
theorem verifyWith_cases (d : Decoding) (secret : String) (now : Instant) (token : String) :
    verifyWith d secret now token = .error .invalidAccessToken ∨
    verifyWith d secret now token = .error .invalidSignature ∨
    ∃ header payload b, '.' ∉ header ∧ '.' ∉ payload ∧
      token.toList = joined header payload (signature secret (signingInput header payload)) ∧
      Base64.decode? .urlSafe header = some b ∧ d.algorithm? b = some .hs256 ∧
      verifyWith d secret now token = acceptPayload d now.second payload := by
  unfold verifyWith
  cases hparts : parts? token.toList with
  | none => exact .inl rfl
  | some p =>
    obtain ⟨htoken, hpayload, -⟩ := parts?_eq_some_iff.mp hparts
    dsimp only
    cases ha : (Base64.decode? .urlSafe p.header).bind d.algorithm? with
    | none => exact .inl rfl
    | some a =>
      dsimp only
      by_cases hs : a = .hs256
      · by_cases hsig : p.signature = signature secret (signingInput p.header p.payload)
        · obtain ⟨b, hb, halg⟩ := Option.bind_eq_some_iff.mp ha
          refine .inr (.inr ⟨p.header, p.payload, b, Base64.not_mem_of_decode? hb, hpayload, ?_, hb,
            hs ▸ halg, ?_⟩)
          · rw [htoken, ← hsig]
          · rw [if_neg (by simp [hs]), if_neg (by simp [hsig])]
        · exact .inr (.inl (by rw [if_neg (by simp [hs]), if_pos hsig]))
      · exact .inr (.inl (by rw [if_pos hs]))

/-- An accepted token is the one signed text of its header and payload. -/
theorem verifyWith_eq_ok (hd : d.Coherent) {now : Instant} {token : String} {claims : Claims}
    (h : verifyWith d secret now token = .ok claims) :
    ∃ header payload headerBytes payloadBytes, '.' ∉ header ∧ '.' ∉ payload ∧
      token.toList = joined header payload (signature secret (signingInput header payload)) ∧
      Base64.decode? .urlSafe header = some headerBytes ∧
      d.algorithm? headerBytes = some .hs256 ∧
      Base64.decode? .urlSafe payload = some payloadBytes ∧
      d.claims? payloadBytes = some claims ∧ now.second ≤ claims.expiresAt := by
  rcases verifyWith_cases d secret now token with
    he | he | ⟨header, payload, b, hheader, hpayload, htoken, hb, halg, haccept⟩
  · rw [h] at he
    cases he
  · rw [h] at he
    cases he
  · obtain ⟨b', hb', hclaims, hnow⟩ := acceptPayload_eq_ok hd (haccept.symm.trans h)
    exact ⟨header, payload, b, b', hheader, hpayload, htoken, hb, halg, hb', hclaims, hnow⟩

/-- What is forged is refused as such or for the form of the token. -/
theorem verifyWith_forged (d : Decoding) (now : Instant) {header payload sig : List Char}
    (hne : sig ≠ signature secret (signingInput header payload)) :
    verifyWith d secret now (String.ofList (joined header payload sig)) =
        .error .invalidSignature ∨
      verifyWith d secret now (String.ofList (joined header payload sig)) =
        .error .invalidAccessToken := by
  rcases verifyWith_cases d secret now (String.ofList (joined header payload sig)) with
    h | h | ⟨header', payload', _, hheader, hpayload, htoken, -⟩
  · exact .inr h
  · exact .inl h
  · rw [String.toList_ofList] at htoken
    obtain ⟨rfl, rfl, rfl⟩ := joined_inj hheader hpayload (not_mem_signature _ _) htoken.symm
    exact absurd rfl hne

theorem signature_of_verifyWith {now : Instant} {header payload sig : List Char} {claims : Claims}
    (h : verifyWith d secret now (String.ofList (joined header payload sig)) = .ok claims) :
    sig = signature secret (signingInput header payload) := by
  by_contra hne
  rcases verifyWith_forged d now hne with he | he <;>
  · rw [h] at he
    cases he

theorem verifyWith_of_no_parts (d : Decoding) (secret : String) (now : Instant) {token : String}
    (h : ∀ header payload sig, token.toList ≠ joined header payload sig) :
    verifyWith d secret now token = .error .invalidAccessToken := by
  unfold verifyWith
  cases hp : parts? token.toList with
  | none => rfl
  | some p => exact absurd (parts?_eq_some_iff.mp hp).1 (h _ _ _)

/-- A header of the one algorithm names it, as a text or as the name of a null. -/
theorem algorithm?_eq_hs256 {b : Bytes} (h : algorithm? b = some .hs256) :
    ∃ v alg, Json.read (Json.record false headerFields) (Json.wire b) = .ok v ∧
      v.member? "alg" = some alg ∧
      (alg = .text "HS256" ∨ alg = .record [("HS256", .null)]) := by
  obtain ⟨v, hv, h⟩ := Option.bind_eq_some_iff.mp h
  have hread : Json.read (Json.record false headerFields) (Json.wire b) = .ok v := by
    cases hr : Json.read (Json.record false headerFields) (Json.wire b) <;>
      simp_all [Except.toOption]
  split at h
  next =>
    obtain ⟨alg, halg, ha⟩ := Option.bind_eq_some_iff.mp h
    have hname {name : String} (hn : Algorithm.ofName? name = some .hs256) : name = "HS256" := by
      unfold Algorithm.ofName? at hn
      have hfound := List.find?_some hn
      exact (of_decide_eq_true hfound).symm
    refine ⟨v, alg, hread, halg, ?_⟩
    unfold Algorithm.ofValue? at ha
    split at ha
    next => exact .inl (by rw [hname ha])
    next => exact .inr (by rw [hname ha])
    next => cases ha
  next => cases h

/-! Tokens that are signed. -/

theorem decode?_encodePart (s : String) :
    Base64.decode? .urlSafe (encodePart s) = some (.ofText s) := Base64.decode?_encode _ _

theorem decodePart?_encodePart (s : String) : decodePart? (encodePart s) = some s := by
  rw [decodePart?, decode?_encodePart, Option.bind_some, Bytes.toText?_ofText]

theorem not_mem_encodePart (s : String) : '.' ∉ encodePart s := Base64.not_mem_encode _ _

theorem algorithm?_issuedHeader : algorithm? (.ofText issuedHeader) = some .hs256 := by
  decide +kernel

theorem acceptPayload_encodePart (now : Int) {c : Claims} (h : c.Bounded) :
    acceptPayload .json now (encodePart (Json.render c.toValue)) =
      if c.expiresAt < 0 then .error .invalidAccessToken
      else if c.expiresAt < now then .error .expired
      else .ok c := by
  unfold acceptPayload
  rw [decode?_encodePart]
  simp [Decoding.json, Claims.ofBytes?_render h, Registered.ofBytes?_render h]

/-- With the right signature and the algorithm in use, the payload decides. -/
theorem verifyWith_joined (secret : String) (now : Instant) {header payload : List Char}
    (hheader : (Base64.decode? .urlSafe header).bind d.algorithm? = some .hs256)
    (hpayload : '.' ∉ payload) :
    verifyWith d secret now
        (String.ofList (joined header payload (signature secret (signingInput header payload)))) =
      acceptPayload d now.second payload := by
  unfold verifyWith
  rw [String.toList_ofList, parts?_joined header hpayload (not_mem_signature _ _)]
  dsimp only
  rw [hheader]
  dsimp only
  rw [if_neg (by decide), if_neg (by simp)]

/-- The token that some claims have under a secret, usable or not. -/
def signedText (secret : String) (c : Claims) : String :=
  let header := encodePart issuedHeader
  let payload := encodePart (Json.render c.toValue)
  String.ofList (joined header payload (signature secret (signingInput header payload)))

/-- The claims and the clock decide on a token signed with the same secret, usable or not. -/
theorem verify_signedText (secret : String) (now : Instant) {c : Claims} (h : c.Bounded) :
    verify secret now (signedText secret c) =
      if c.expiresAt < 0 then .error .invalidAccessToken
      else if c.expiresAt < now.second then .error .expired
      else .ok c := by
  have hheader : (Base64.decode? .urlSafe (encodePart issuedHeader)).bind
      Decoding.json.algorithm? = some .hs256 := by
    rw [decode?_encodePart]
    exact algorithm?_issuedHeader
  rw [signedText, verify, verifyWith_joined secret now hheader (not_mem_encodePart _),
    acceptPayload_encodePart now.second h]

/-! Soundness. -/

/-- Acceptance is sound, and what is forged is never looked at: an accepted token is the one signed
text of its header and payload, which say in JSON what the algorithm and the claims are and that
these have not lapsed. However headers and payloads are read, as long as the two readings of a payload
agree on its expiry, at most one signature is accepted with them, and any other is refused as such or
for the form of the token, and alike for all payloads. -/
theorem verify_sound (secret : String) :
    (∀ now token claims, verify secret now token = .ok claims →
      ∃ header payload headerBytes payloadBytes v alg, '.' ∉ header ∧ '.' ∉ payload ∧
        token.toList = joined header payload (signature secret (signingInput header payload)) ∧
        Base64.decode? .urlSafe header = some headerBytes ∧
        Json.read (Json.record false headerFields) (Json.wire headerBytes) = .ok v ∧
        v.member? "alg" = some alg ∧ (alg = .text "HS256" ∨ alg = .record [("HS256", .null)]) ∧
        Base64.decode? .urlSafe payload = some payloadBytes ∧
        Claims.ofBytes? payloadBytes = some claims ∧ now.second ≤ claims.expiresAt) ∧
    verify secret = verifyWith .json secret ∧ Decoding.json.Coherent ∧
    ∀ d : Decoding, d.Coherent →
      (∀ now token claims, verifyWith d secret now token = .ok claims →
        ∃ header payload headerBytes payloadBytes, '.' ∉ header ∧ '.' ∉ payload ∧
          token.toList = joined header payload (signature secret (signingInput header payload)) ∧
          Base64.decode? .urlSafe header = some headerBytes ∧
          d.algorithm? headerBytes = some .hs256 ∧
          Base64.decode? .urlSafe payload = some payloadBytes ∧
          d.claims? payloadBytes = some claims ∧ now.second ≤ claims.expiresAt) ∧
      (∀ now now' header payload sig sig' claims claims',
        verifyWith d secret now (String.ofList (joined header payload sig)) = .ok claims →
        verifyWith d secret now' (String.ofList (joined header payload sig')) = .ok claims' →
        sig = sig') ∧
      (∀ now header payload sig, sig ≠ signature secret (signingInput header payload) →
        verifyWith d secret now (String.ofList (joined header payload sig)) =
            .error .invalidSignature ∨
          verifyWith d secret now (String.ofList (joined header payload sig)) =
            .error .invalidAccessToken) ∧
      (∀ now token, (∀ header payload sig, token.toList ≠ joined header payload sig) →
        verifyWith d secret now token = .error .invalidAccessToken) ∧
      ∀ now now' header payload payload' sig sig', '.' ∉ payload → '.' ∉ payload' →
        '.' ∉ sig → '.' ∉ sig' → sig ≠ signature secret (signingInput header payload) →
        sig' ≠ signature secret (signingInput header payload') →
        verifyWith d secret now (String.ofList (joined header payload sig)) =
          verifyWith d secret now' (String.ofList (joined header payload' sig')) := by
  refine ⟨?_, rfl, Decoding.json_coherent, fun d hd => ⟨fun now token claims => verifyWith_eq_ok hd,
    ?_, fun now header payload sig hne => verifyWith_forged d now hne,
    fun now token => verifyWith_of_no_parts d secret now, ?_⟩⟩
  · intro now token claims h
    obtain ⟨header, payload, b, b', hheader, hpayload, htoken, hb, halg, hb', hclaims, hnow⟩ :=
      verifyWith_eq_ok Decoding.json_coherent h
    obtain ⟨v, alg, hv, hmember, hname⟩ := algorithm?_eq_hs256 halg
    exact ⟨header, payload, b, b', v, alg, hheader, hpayload, htoken, hb, hv, hmember, hname, hb',
      hclaims, hnow⟩
  · intro now now' header payload sig sig' claims claims' h h'
    rw [signature_of_verifyWith h, signature_of_verifyWith h']
  · intro now now' header payload payload' sig sig' hpayload hpayload' hsig hsig' hne hne'
    rw [verifyWith_joined_of_ne d now hpayload hsig hne,
      verifyWith_joined_of_ne d now' hpayload' hsig' hne']

theorem signature_ne_nil (secret : String) (input : List Char) : signature secret input ≠ [] := by
  unfold signature
  have hlen := Sha256.length_hmac (.ofText secret) (.ofText (String.ofList input))
  generalize Sha256.hmac (.ofText secret) (.ofText (String.ofList input)) = b at hlen ⊢
  rcases b with _ | ⟨x, _ | ⟨y, _ | ⟨z, rest⟩⟩⟩
  · cases hlen
  all_goals simp [Base64.encode]

/-- A token that is accepted in the last second of its claims, and the same token without its
signature, refused whatever payload it is given. -/
theorem signed_token_accepted :
    (∃ header payload headerBytes payloadBytes v alg, '.' ∉ header ∧ '.' ∉ payload ∧
      (signedText "secret" ⟨⟨1⟩, "+15551234567", ["ADMIN"], [], 5, 9⟩).toList =
        joined header payload (signature "secret" (signingInput header payload)) ∧
      Base64.decode? .urlSafe header = some headerBytes ∧
      Json.read (Json.record false headerFields) (Json.wire headerBytes) = .ok v ∧
      v.member? "alg" = some alg ∧ (alg = .text "HS256" ∨ alg = .record [("HS256", .null)]) ∧
      Base64.decode? .urlSafe payload = some payloadBytes ∧
      Claims.ofBytes? payloadBytes = some ⟨⟨1⟩, "+15551234567", ["ADMIN"], [], 5, 9⟩ ∧
      (Instant.ofSeconds 9 0).second ≤ 9) ∧
    (let header := encodePart issuedHeader
      let payload :=
        encodePart (Json.render (Claims.toValue ⟨⟨1⟩, "+15551234567", ["ADMIN"], [], 5, 9⟩))
      (∀ sig, verify "secret" (.ofSeconds 9 0) (String.ofList (joined header payload sig)) =
          .ok ⟨⟨1⟩, "+15551234567", ["ADMIN"], [], 5, 9⟩ →
        signature "secret" (signingInput header payload) = sig) ∧
      (verify "secret" (.ofSeconds 9 0) (String.ofList (joined header payload [])) =
          .error .invalidSignature ∨
        verify "secret" (.ofSeconds 9 0) (String.ofList (joined header payload [])) =
          .error .invalidAccessToken) ∧
      verify "secret" (.ofSeconds 9 0) (String.ofList (joined header payload [])) =
        verify "secret" (.ofSeconds 10 0) (String.ofList (joined header "e30".toList []))) ∧
    verify "secret" (.ofSeconds 9 0) "e30.e30" = .error .invalidAccessToken := by
  have haccepted := verify_signedText "secret" (.ofSeconds 9 0)
    (c := ⟨⟨1⟩, "+15551234567", ["ADMIN"], [], 5, 9⟩) ⟨by decide, by decide⟩
  rw [if_neg (by decide), if_neg (by decide)] at haccepted
  obtain ⟨hsound, -, -, hreading⟩ := verify_sound "secret"
  obtain ⟨-, hunique, hforged, hparts, halike⟩ := hreading .json Decoding.json_coherent
  refine ⟨hsound _ _ _ haccepted, ⟨fun sig h => hunique _ _ _ _ _ _ _ _ haccepted h,
    hforged _ _ _ _ (signature_ne_nil _ _).symm, halike _ _ _ _ _ _ _ (not_mem_encodePart _)
      (by decide) List.not_mem_nil List.not_mem_nil (signature_ne_nil _ _).symm
      (signature_ne_nil _ _).symm⟩, hparts _ _ fun header payload sig h => ?_⟩
  -- One dot does not make three parts.
  have hcount := congrArg (List.count '.') h
  have hone : List.count '.' "e30.e30".toList = 1 := by decide
  simp only [joined, signingInput, List.count_append, List.count_cons_self] at hcount
  omega

end Token

end Turnstile
