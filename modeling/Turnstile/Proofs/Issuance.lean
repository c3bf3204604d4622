import Turnstile.Proofs.Acceptance

/-! Issuing access tokens. What is signed is read back, claim by claim, under the same secret, up to
the second in which it lapses. -/
namespace Turnstile

namespace Token

theorem sign_eq (secret : String) (c : Claims) :
    sign secret c =
      if secret = "" then .error (.signing "signing secret is empty")
      else .ok (signedText secret c) := rfl

theorem sign_ok_iff (secret : String) (c : Claims) :
    (∃ t, sign secret c = .ok t) ↔ secret ≠ "" := by
  rw [sign_eq]
  split
  next h => simp [h]
  next h => simp [h]

/-- Whatever is accepted can be signed, under every secret but the empty one. -/
theorem accepted_signable_iff (secret : String) :
    (∀ now token claims, verify secret now token = .ok claims → ∃ t, sign secret claims = .ok t) ↔
      secret ≠ "" := by
  constructor
  · rintro h rfl
    let c : Claims := ⟨⟨0⟩, "", [], [], 0, 0⟩
    have haccepted : verify "" ⟨0⟩ (signedText "" c) = .ok c :=
      verify_signedText "" ⟨0⟩ ⟨by decide, by decide⟩
    exact (sign_ok_iff "" c).mp (h _ _ _ haccepted) rfl
  · intro h now token claims _
    exact (sign_ok_iff secret claims).mpr h

/-- Nothing is signed under the empty secret, yet what anyone makes with it is accepted. -/
theorem empty_secret_accepts :
    verify "" (.ofSeconds 1700000000 0)
        (signedText "" ⟨⟨1⟩, "+15551234567", ["ADMIN"], [], 1700000000, 4102444800⟩) =
      .ok ⟨⟨1⟩, "+15551234567", ["ADMIN"], [], 1700000000, 4102444800⟩ ∧
    sign "" ⟨⟨1⟩, "+15551234567", ["ADMIN"], [], 1700000000, 4102444800⟩ =
      .error (.signing "signing secret is empty") :=
  ⟨verify_signedText "" (.ofSeconds 1700000000 0) ⟨by decide, by decide⟩, rfl⟩

/-- The calendar and the milliseconds of a lifetime leave the expiry well inside 64 bits. -/
theorem expiry_bounds {issued : Instant} {lifetime : Duration} (hissued : issued.Representable)
    (hlifetime : 0 ≤ lifetime.nanos ∧ lifetime.nanos ≤ Duration.maxMillis * 1000000) :
    issued.second ≤ 8210266876799 ∧ 0 ≤ lifetime.seconds ∧
      lifetime.seconds ≤ 9223372036854775 := by
  obtain ⟨-, hlast⟩ := hissued
  simp only [Instant.lastSecond, Duration.maxMillis, Instant.second, Duration.seconds] at *
  rw [Int.fdiv_eq_ediv_of_nonneg _ (by decide)] at *
  rw [Int.tdiv_eq_ediv_of_nonneg hlifetime.1]
  omega

/-- The claims of a token issued at some time for some lifetime. -/
def Claims.issued (wall : Instant) (id : Uuid) (phone : String) (roles entitlements : List String)
    (lifetime : Duration) : Claims :=
  ⟨id, phone, roles, entitlements, wall.second, wall.second + lifetime.seconds⟩

theorem issue_eq {secret : String} (hsecret : secret ≠ "") (wall : Instant) (id : Uuid)
    (phone : String) (roles entitlements : List String) (lifetime : Duration) :
    issue secret wall id phone roles entitlements lifetime =
      .ok (signedText secret (.issued wall id phone roles entitlements lifetime)) := if_neg hsecret

theorem verify_issued (secret : String) (id : Uuid) (phone : String)
    (roles entitlements : List String) {wall : Instant} {lifetime : Duration}
    (hwall : wall.Representable) (hepoch : 0 ≤ wall.second)
    (hlifetime : 0 ≤ lifetime.nanos ∧ lifetime.nanos ≤ Duration.maxMillis * 1000000)
    (now : Instant) :
    verify secret now (signedText secret (.issued wall id phone roles entitlements lifetime)) =
      if wall.second + lifetime.seconds < now.second then .error .expired
      else .ok (.issued wall id phone roles entitlements lifetime) := by
  obtain ⟨hlast, hshort, hlong⟩ := expiry_bounds hwall hlifetime
  have hbounded : (Claims.issued wall id phone roles entitlements lifetime).Bounded :=
    ⟨by dsimp only [Claims.issued]; omega, by dsimp only [Claims.issued]; omega⟩
  rw [verify_signedText secret now hbounded, if_neg (by dsimp only [Claims.issued]; omega)]
  rfl

/-- A token that is issued says what it was issued for, to the second in which it lapses. -/
theorem issue_verifies {secret : String} (hsecret : secret ≠ "") (id : Uuid) (phone : String)
    (roles entitlements : List String) {wall : Instant} {lifetime : Duration}
    (hwall : wall.Representable) (hepoch : 0 ≤ wall.second)
    (hlifetime : 0 ≤ lifetime.nanos ∧ lifetime.nanos ≤ Duration.maxMillis * 1000000) :
    ∃ token, issue secret wall id phone roles entitlements lifetime = .ok token ∧
      ∀ now : Instant, verify secret now token =
        if wall.second + lifetime.seconds < now.second then .error .expired
        else .ok ⟨id, phone, roles, entitlements, wall.second, wall.second + lifetime.seconds⟩ :=
  ⟨_, issue_eq hsecret wall id phone roles entitlements lifetime,
    verify_issued secret id phone roles entitlements hwall hepoch hlifetime⟩

/-- Texts that have to be escaped come back as they were. -/
theorem issue_verifies_escaped :
    ∃ token, issue "test-secret" (.ofSeconds 1700000000 5) ⟨1⟩ "\"+1\" \\n" ["\n\u0001é"] ["😀", ""]
        (.ofMinutes 60) = .ok token ∧
      ∀ now : Instant, verify "test-secret" now token =
        if (1700003600 : Int) < now.second then .error .expired
        else .ok ⟨⟨1⟩, "\"+1\" \\n", ["\n\u0001é"], ["😀", ""], 1700000000, 1700003600⟩ :=
  issue_verifies (by decide) ⟨1⟩ _ _ _ (by decide) (by decide) (by decide)

end Token

end Turnstile
