import Turnstile.Proofs.Effects
import Turnstile.Proofs.Inputs

/-! Phones that are kept. Every account's phone and every phone in the ledger has passed the check of
phones, after its white space was dropped. The check takes decimal digits of any script, so what is
kept is an E.164 number exactly if it is written in ASCII. -/
namespace Turnstile

namespace Text

/-- No character lies in two tables whose ranges are apart. -/
theorem inRanges_eq_false_of_apart {table table' : List (Nat × Nat)} {c : Char}
    (hapart : ∀ r ∈ table, ∀ r' ∈ table', r.2 < r'.1 ∨ r'.2 < r.1)
    (h : inRanges table c = true) : inRanges table' c = false := by
  obtain ⟨r, hr, hlow, hhigh⟩ := inRanges_eq_true_iff.mp h
  rw [← Bool.not_eq_true, inRanges_eq_true_iff]
  rintro ⟨r', hr', hlow', hhigh'⟩
  have := hapart r hr r' hr'
  omega

theorem isBlank_of_isDecimalDigit {c : Char} (h : isDecimalDigit c = true) : isBlank c = false :=
  inRanges_eq_false_of_apart (by decide) h

/-- The first range of the table are the digits of ASCII, and all others lie beyond ASCII. -/
theorem isDecimalDigit_iff_of_ascii {c : Char} (h : c.toNat < 128) :
    isDecimalDigit c = true ↔ '0' ≤ c ∧ c ≤ '9' := by
  have htable : ∀ r ∈ decimalDigitRanges, r = (48, 57) ∨ 128 ≤ r.1 := by decide
  have hrange : '0' ≤ c ∧ c ≤ '9' ↔ 48 ≤ c.toNat ∧ c.toNat ≤ 57 := Iff.rfl
  rw [isDecimalDigit, inRanges_eq_true_iff, hrange]
  constructor
  · rintro ⟨r, hr, hlow, hhigh⟩
    rcases htable r hr with rfl | hbeyond
    · exact ⟨hlow, hhigh⟩
    · omega
  · rintro ⟨hlow, hhigh⟩
    exact ⟨(48, 57), List.mem_cons_self, hlow, hhigh⟩

end Text

namespace Phone

/-- A plus sign, an ASCII digit from 1 to 9, and one to fourteen further digits of some kind. -/
def OfDigits (digit : Char → Prop) (phone : String) : Prop :=
  ∃ first rest, phone.toList = '+' :: first :: rest ∧ ('1' ≤ first ∧ first ≤ '9') ∧
    (1 ≤ rest.length ∧ rest.length ≤ 14) ∧ ∀ d ∈ rest, digit d

/-- A number as the standard has it, in ASCII digits throughout. -/
def E164 : String → Prop := OfDigits fun d => '0' ≤ d ∧ d ≤ '9'

theorem OfDigits.mono {digit digit' : Char → Prop} {phone : String} (h : OfDigits digit phone)
    (hd : ∀ d ∈ phone.toList, digit d → digit' d) : OfDigits digit' phone := by
  obtain ⟨first, rest, heq, hfirst, hlength, hrest⟩ := h
  refine ⟨first, rest, heq, hfirst, hlength, fun d hmem => hd d ?_ (hrest d hmem)⟩
  rw [heq]
  exact List.mem_cons_of_mem _ (List.mem_cons_of_mem _ hmem)

theorem wellFormed_iff {phone : String} :
    wellFormed phone = true ↔ OfDigits (Text.isDecimalDigit · = true) phone := by
  unfold wellFormed OfDigits
  generalize phone.toList = s
  constructor
  · intro h
    unfold wellFormedText at h
    split at h
    next first rest =>
      simp only [Bool.and_eq_true, decide_eq_true_eq, List.all_eq_true] at h
      obtain ⟨⟨⟨⟨hlow, hhigh⟩, hmin⟩, hmax⟩, hrest⟩ := h
      exact ⟨first, rest, rfl, ⟨hlow, hhigh⟩, ⟨hmin, hmax⟩, hrest⟩
    next => cases h
  · rintro ⟨first, rest, rfl, ⟨hlow, hhigh⟩, ⟨hmin, hmax⟩, hrest⟩
    simp only [wellFormedText, Bool.and_eq_true, decide_eq_true_eq, List.all_eq_true]
    exact ⟨⟨⟨⟨hlow, hhigh⟩, hmin⟩, hmax⟩, hrest⟩

/-- A well-formed phone has no white space to drop. -/
theorem normalize_of_wellFormed {phone : String} (h : wellFormed phone = true) :
    normalize phone = phone := by
  obtain ⟨first, rest, heq, ⟨hlow, hhigh⟩, -, hrest⟩ := wellFormed_iff.mp h
  have hfirst : Text.isBlank first = false := by
    have hlow : 49 ≤ first.toNat := hlow
    have hhigh : first.toNat ≤ 57 := hhigh
    refine Text.isBlank_of_isDecimalDigit (Text.inRanges_eq_true_iff.mpr ?_)
    exact ⟨(48, 57), List.mem_cons_self, Nat.le_of_succ_le hlow, hhigh⟩
  have hkept : ∀ c ∈ phone.toList, (!Text.isBlank c) = true := by
    intro c hc
    rw [heq] at hc
    rcases List.mem_cons.mp hc with rfl | hc
    · decide
    rcases List.mem_cons.mp hc with rfl | hc
    · rw [hfirst, Bool.not_false]
    · rw [Text.isBlank_of_isDecimalDigit (hrest c hc), Bool.not_false]
  rw [normalize, Text.withoutBlanks, List.filter_eq_self.mpr hkept, String.ofList_toList]

/-- The phones among those that pass the check that are E.164 numbers. -/
theorem e164_iff {phone : String} :
    E164 phone ↔ wellFormed phone = true ∧ ∀ c ∈ phone.toList, c.toNat < 128 := by
  rw [wellFormed_iff]
  constructor
  · intro h
    have hascii : ∀ c ∈ phone.toList, c.toNat < 128 := by
      obtain ⟨first, rest, heq, ⟨-, hfirst⟩, -, hrest⟩ := h
      have hle {c : Char} (hc : c ≤ '9') : c.toNat < 128 := Nat.lt_of_le_of_lt hc (by decide)
      intro c hc
      rw [heq] at hc
      rcases List.mem_cons.mp hc with rfl | hc
      · decide
      rcases List.mem_cons.mp hc with rfl | hc
      · exact hle hfirst
      · exact hle (hrest c hc).2
    exact ⟨h.mono fun d hd => (Text.isDecimalDigit_iff_of_ascii (hascii d hd)).mpr, hascii⟩
  · rintro ⟨h, hascii⟩
    exact h.mono fun d hd => (Text.isDecimalDigit_iff_of_ascii (hascii d hd)).mp

end Phone

namespace Operation

/-- The phone that an operation brings, as it is spelled. -/
def phone? : Operation → Option String
  | .register r => some r.phone
  | .login phone _ | .editUser _ phone _ => some phone
  | _ => none

/-- An operation that succeeds was not refused for its input. -/
theorem inputError?_of_ok {o : Operation} {c : Settings} {now : Circumstances} {db : Database}
    {reply : Reply} (h : (Event.answer c ⟨now, o⟩ db).1 = .ok reply) : o.inputError? = none := by
  cases he : o.inputError? with
  | none => rfl
  | some e =>
    rw [Event.answer, perform_of_inputError he c now db] at h
    cases h

/-- The phone of a registration or an edit that is not refused for its input is well formed. -/
theorem wellFormed_of_inputError? {o : Operation} {spelling : String} (h : o.inputError? = none)
    (hphone : o.phone? = some spelling) (hlogin : ∀ phone password, o ≠ .login phone password) :
    Phone.wellFormed (Phone.normalize spelling) = true := by
  cases o with
  | register r =>
    cases hphone
    obtain ⟨_, hv⟩ := errorOf_eq_none_iff.mp h
    obtain ⟨_, hv, -⟩ := ok_of_bind hv
    exact Phone.validate_eq_ok_iff.mp hv
  | login phone password => exact absurd rfl (hlogin phone password)
  | editUser user phone password =>
    cases hphone
    obtain ⟨_, hv⟩ := errorOf_eq_none_iff.mp (Option.or_eq_none_iff.mp h).1
    exact Phone.validate_eq_ok_iff.mp hv
  | _ => cases hphone

end Operation

namespace Store

/-- The phones of all accounts, and all phones in the ledger, have a property. -/
structure PhonesAre (P : String → Prop) (s : Store) : Prop where
  accounts : ∀ (id : Uuid) r, s.accounts[id]? = some r → P r.account.phone
  ledger : ∀ (phone : String) r, s.ledger[phone]? = some r → P phone

/-- Whatever well-formed phone an event brings has the property. -/
def Brings (P : String → Prop) (e : Event) : Prop :=
  ∀ spelling, e.operation.phone? = some spelling →
    Phone.wellFormed (Phone.normalize spelling) = true → P (Phone.normalize spelling)

namespace PhonesAre

variable {P : String → Prop} {s s' : Store}

theorem empty : PhonesAre P .empty where
  accounts := by simp [Store.empty]
  ledger := by simp [Store.empty]

theorem insertAccount (h : s.PhonesAre P) (id : Uuid) {r : AccountRecord}
    (hr : P r.account.phone) : PhonesAre P { s with accounts := s.accounts.insert id r } where
  accounts := by
    intro user r' hr'
    rw [Std.ExtTreeMap.getElem?_insert] at hr'
    split at hr'
    next => exact Option.some.inj hr' ▸ hr
    next => exact h.accounts user r' hr'
  ledger := h.ledger

theorem modifyAccount (h : s.PhonesAre P) (id : Uuid) {f : AccountRecord → AccountRecord}
    (hf : ∀ r, P r.account.phone → P (f r).account.phone) : (s.modifyAccount id f).PhonesAre P where
  accounts := by
    intro user r hr
    rw [modifyAccount_get] at hr
    split at hr
    next =>
      obtain ⟨r', hr', rfl⟩ := Option.map_eq_some_iff.mp hr
      exact hf r' (h.accounts id r' hr')
    next => exact h.accounts user r hr
  ledger := h.ledger

theorem alterLedger (h : s.PhonesAre P) {phone : String} (hp : P phone)
    (f : Option FailedLogins → Option FailedLogins) : (s.alterLedger phone f).PhonesAre P where
  accounts := h.accounts
  ledger := by
    intro q r hr
    rw [alterLedger_get] at hr
    split at hr
    next hq => exact hq ▸ hp
    next => exact h.ledger q r hr

variable {c : Settings} {now : Circumstances} {o : Operation}

theorem effect (h : s.PhonesAre P) (hnew : Brings P ⟨now, o⟩) (hvalid : o.inputError? = none)
    {reply : Reply} (he : Effect c now s o reply s') : s'.PhonesAre P := by
  cases he with
  | register r =>
    exact h.insertAccount _ (hnew _ rfl (Operation.wellFormed_of_inputError? hvalid rfl nofun))
  | editUser _ phone =>
    have hphone := hnew _ rfl (Operation.wellFormed_of_inputError? hvalid rfl nofun)
    exact h.modifyAccount _ fun _ _ => hphone
  | login spelling _ _ _ _ hx =>
    exact (h.alterLedger (hnew _ rfl hx.wellFormed) _).modifyAccount _ fun _ hr => hr
  | refresh | logout | grant | editRights | revoke | assign =>
    exact h.modifyAccount _ fun _ hr => hr
  | addRole | editRole | deleteRole | addGlobal | addMerchant | beGlobal | ceaseGlobal
  | deleteContext | deleteContexts => exact ⟨h.accounts, h.ledger⟩
  | read => exact h

/-- An event keeps the phones as they are but for the one it brings. -/
theorem event (h : s.PhonesAre P) {e : Event} (hnew : Brings P e)
    (he : (e.answer c (.ready s)).2 = .ready s') : s'.PhonesAre P := by
  obtain ⟨now, o⟩ := e
  obtain ⟨answer, t, hanswer, ho⟩ := Outcome.reached c now s o
  have ht : Database.ready t = .ready s' := (congrArg Prod.snd hanswer).symm.trans he
  cases ht
  cases ho with
  | done heffect =>
    exact h.effect hnew (Operation.inputError?_of_ok (congrArg Prod.fst hanswer)) heffect
  | refused => exact h
  | unissued ho _ hx =>
    subst ho
    exact h.alterLedger (hnew _ rfl hx.wellFormed) _
  | failed ho hx =>
    subst ho
    exact (h.alterLedger (hnew _ rfl hx.wellFormed) _).alterLedger (hnew _ rfl hx.wellFormed) _

end PhonesAre

end Store

namespace Database

open Store

theorem phones_after (c : Settings) {P : String → Prop} {events : List Event}
    (hnew : ∀ e ∈ events, Brings P e) :
    ∃ s, (ready .empty).after c events = .ready s ∧ s.PhonesAre P := by
  refine after_induction (Q := fun events => ∀ e ∈ events, Brings P e)
    (P := fun _ => PhonesAre P) ?_ .empty ?_ hnew
  · exact fun h e he => h e (List.mem_append_left _ he)
  · exact fun h _ hs he => hs.event (h _ (by simp)) he

/-- The check accepts a plus sign, an ASCII digit from 1 to 9 and one to fourteen decimal digits of
any script, and among these the E.164 numbers are those in ASCII. After every run, every phone of an
account or in the ledger is accepted, whatever texts were sent; if no digit of another script was
sent, every one is an E.164 number. -/
theorem kept_phones_accepted (c : Settings) (events : List Event) :
    (∀ phone, Phone.validate phone = .ok () ↔
      Phone.OfDigits (Text.isDecimalDigit · = true) phone) ∧
    (∀ phone, Phone.E164 phone ↔
      Phone.validate phone = .ok () ∧ ∀ d ∈ phone.toList, d.toNat < 128) ∧
    ∃ s, (ready .empty).after c events = .ready s ∧
      s.PhonesAre (Phone.validate · = .ok ()) ∧
      ((∀ e ∈ events, ∀ spelling, e.operation.phone? = some spelling →
          ∀ d ∈ spelling.toList, Text.isDecimalDigit d = true → d.toNat < 128) →
        s.PhonesAre Phone.E164) := by
  have haccepted {phone : String} :
      Phone.validate phone = .ok () ↔ Phone.wellFormed phone = true := Phone.validate_eq_ok_iff
  refine ⟨fun phone => haccepted.trans Phone.wellFormed_iff, fun phone => ?_, ?_⟩
  · rw [Phone.e164_iff, haccepted]
  have hbrought : ∀ e ∈ events, Brings (Phone.validate · = .ok ()) e :=
    fun e _ spelling _ hwell => haccepted.mpr hwell
  obtain ⟨s, hs, hvalid⟩ := phones_after c hbrought
  refine ⟨s, hs, hvalid, fun hdigits => ?_⟩
  have hnew : ∀ e ∈ events, Brings Phone.E164 e := by
    intro e he spelling hphone hwell
    apply (Phone.wellFormed_iff.mp hwell).mono
    intro d hd hdigit
    -- Dropping white space adds no characters, so the digit was in the text that was sent.
    have hsent : d ∈ spelling.toList := by
      rw [Phone.normalize, Text.toList_withoutBlanks] at hd
      exact (List.mem_filter.mp hd).1
    exact (Text.isDecimalDigit_iff_of_ascii (hdigits e he spelling hphone d hsent hdigit)).mp hdigit
  obtain ⟨t, ht, he164⟩ := phones_after c hnew
  obtain rfl : t = s := Database.ready.inj (ht.symm.trans hs)
  exact he164

/-- A registration and a failed login, both with white space in their phones. -/
theorem spaced_phones_kept :
    let c := Settings.ofSecret "secret"
    let now : Circumstances := ⟨⟨.ofSeconds 0 0, .ofSeconds 0 0⟩, ⟨⟨1⟩, [], []⟩⟩
    let events : List Event :=
      [⟨now, .register ⟨"+1 555 123 4567", none, "Passw0rd!", none, none⟩⟩,
        ⟨now, .login " +44\t20 7946 0000" "guess"⟩]
    ∃ s, (ready .empty).after c events = .ready s ∧ s.PhonesAre Phone.E164 ∧
      "+442079460000" ∈ s.ledger := by
  intro c now events
  have hdigits : ∀ e ∈ events, ∀ spelling, e.operation.phone? = some spelling →
      ∀ d ∈ spelling.toList, Text.isDecimalDigit d = true → d.toNat < 128 := by
    intro e he spelling hphone d hd _
    have hascii : spelling.toList.all (·.toNat < 128) = true := by
      rcases List.mem_pair.mp he with rfl | rfl
      all_goals
        cases hphone
        decide
    exact of_decide_eq_true (List.all_eq_true.mp hascii d hd)
  have hkept : ((ready .empty).after c events).store?.any ("+442079460000" ∈ ·.ledger) = true := by
    decide +kernel
  obtain ⟨-, -, s, hs, -, he164⟩ := kept_phones_accepted c events
  rw [hs] at hkept
  exact ⟨s, hs, he164 hdigits, of_decide_eq_true hkept⟩

/-- Arabic digits are accepted, and an account is opened under them, though no E.164 number has any.
-/
theorem arabic_digits_accepted :
    let phone := "+1\u0662\u0663\u0664\u0665"
    let now : Circumstances := ⟨⟨.ofSeconds 0 0, .ofSeconds 0 0⟩, ⟨⟨1⟩, [], []⟩⟩
    let e : Event := ⟨now, .register ⟨phone, none, "Passw0rd!", none, none⟩⟩
    Phone.validate phone = .ok () ∧ ¬ Phone.E164 phone ∧
      ((((ready .empty).after (.ofSecret "secret") [e]).store?.bind (·.account? ⟨1⟩)).map
        Account.phone) = some phone := by
  intro phone now e
  refine ⟨by decide +kernel, fun h => ?_, by decide +kernel⟩
  have hascii := (Phone.e164_iff.mp h).2 '\u0662' (by decide)
  revert hascii
  decide

end Database

end Turnstile
