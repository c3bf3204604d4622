import Turnstile.Proofs.Effects
import Turnstile.Proofs.NormalForms
import Turnstile.Proofs.Patterns

/-! Email addresses. The pattern may be cut at any inner dot of the domain, and it accepts an
address exactly if there is one. Every account's address has passed it, trimmed and in lower case,
and an account whose address is blank has none that could be taken. -/
namespace Turnstile

namespace Text

theorem trimmed_eq_nil_iff {s : List Char} : trimmed s = [] ↔ ∀ c ∈ s, isBlank c = true := by
  have hdrop (s : List Char) : s.dropWhile isBlank = [] ↔ ∀ c ∈ s, isBlank c = true :=
    List.dropWhile_eq_nil_iff
  rw [trimmed, List.reverse_eq_nil_iff, hdrop]
  simp only [List.mem_reverse]
  constructor
  · intro h
    refine (hdrop s).mp ?_
    -- A text that is left begins with a character that is not blank.
    cases hs : s.dropWhile isBlank with
    | nil => rfl
    | cons c rest =>
      have hblank := h c (by simp [hs])
      have hnot : isBlank c = false := head?_dropWhile (s := s) (by rw [hs]; rfl)
      rw [hblank] at hnot
      cases hnot
  · intro h c hc
    exact h c (List.dropWhile_sublist isBlank |>.subset hc)

theorem lowercaseAt_ne_nil (before : List Char) (c : Char) (after : List Char) :
    lowercaseAt before c after ≠ [] := by
  unfold lowercaseAt
  split
  · split <;> exact List.cons_ne_nil _ _
  · split <;> exact List.cons_ne_nil _ _

theorem lowercaseFrom_eq_nil_iff {before out s : List Char} :
    lowercaseFrom before out s = [] ↔ out = [] ∧ s = [] := by
  induction s generalizing before out with
  | nil => simp [lowercaseFrom]
  | cons c s ih => simp [lowercaseFrom, ih, lowercaseAt_ne_nil]

/-- Lower-casing leaves no text empty that was not. -/
theorem lowercase_eq_empty_iff {s : String} : lowercase s = "" ↔ s = "" := by
  rw [← String.toList_eq_nil_iff, lowercase, String.toList_ofList, lowercaseFrom_eq_nil_iff,
    String.toList_eq_nil_iff, and_iff_right rfl]

end Text

namespace Email

/-- No white space, one at-sign with something before it, and after it a dot that is neither the
first nor the last character. -/
structure Grammatical (email : String) : Prop where
  unblank : ∀ c ∈ email.toList, Text.isBlank c = false
  single : email.toList.count '@' = 1
  parts : ∃ name domain, email.toList = name ++ '@' :: domain ∧ name ≠ [] ∧
    ∃ i, 0 < i ∧ i + 1 < domain.length ∧ domain[i]? = some '.'

/-- Something without white space or at-signs. -/
def IsPart (s : List Char) : Prop := s ≠ [] ∧ ∀ c ∈ s, c ≠ '@' ∧ Text.isBlank c = false

theorem fits_part_iff {s : List Char} : part.Fits s ↔ IsPart s := by
  have hchars : (∀ c ∈ s, part.chars.contains c = true) ↔
      ∀ c ∈ s, c ≠ '@' ∧ Text.isBlank c = false := by
    simp [part, Text.CharClass.contains]
  constructor
  · exact fun h => ⟨h.ne_nil, hchars.mp h.chars⟩
  · exact fun h => ⟨hchars.mpr h.2, h.1, by simp [part]⟩

theorem matches_pattern_iff {s : List Char} :
    pattern.Matches s ↔ ∃ name host top, s = name ++ '@' :: (host ++ '.' :: top) ∧
      IsPart name ∧ IsPart host ∧ IsPart top := by
  simp only [pattern, Text.Pattern.Matches, fits_part_iff, Text.Piece.fits_only_iff]
  constructor
  · rintro ⟨name, -, rfl, hname, -, -, rfl, rfl, host, -, rfl, hhost, -, -, rfl, rfl, top, -, rfl,
      htop, rfl⟩
    exact ⟨name, host, top, by simp, hname, hhost, htop⟩
  · rintro ⟨name, host, top, rfl, hname, hhost, htop⟩
    exact ⟨name, _, rfl, hname, ['@'], _, rfl, rfl, host, _, rfl, hhost, ['.'], _, rfl, rfl, top,
      [], (List.append_nil top).symm, htop, rfl⟩

theorem IsPart.count {s : List Char} (h : IsPart s) : s.count '@' = 0 :=
  List.count_eq_zero.mpr fun hmem => (h.2 _ hmem).1 rfl

/-- A domain with a dot inside is cut at that dot. -/
theorem exists_cut {domain : List Char} {i : Nat} (hpos : 0 < i) (hlast : i + 1 < domain.length)
    (hdot : domain[i]? = some '.') :
    ∃ host top, domain = host ++ '.' :: top ∧ host ≠ [] ∧ top ≠ [] := by
  obtain ⟨hi, hget⟩ := List.getElem?_eq_some_iff.mp hdot
  refine ⟨domain.take i, domain.drop (i + 1), ?_, ?_, ?_⟩
  · rw [← hget, ← List.drop_eq_getElem_cons hi, List.take_append_drop]
  · exact List.ne_nil_of_length_pos (by simp; omega)
  · exact List.ne_nil_of_length_pos (by simp; omega)

theorem Grammatical.of_parts {email : String} {name host top : List Char}
    (heq : email.toList = name ++ '@' :: (host ++ '.' :: top)) (hname : IsPart name)
    (hhost : IsPart host) (htop : IsPart top) : Grammatical email where
  unblank := by
    have hat : Text.isBlank '@' = false := by decide
    have hdot : Text.isBlank '.' = false := by decide
    rw [heq]
    intro c hc
    simp only [List.mem_append, List.mem_cons] at hc
    rcases hc with hc | rfl | hc | rfl | hc
    · exact (hname.2 c hc).2
    · exact hat
    · exact (hhost.2 c hc).2
    · exact hdot
    · exact (htop.2 c hc).2
  single := by
    rw [heq]
    simp [hname.count, hhost.count, htop.count]
  parts := by
    have hpos := List.length_pos_iff.mpr hhost.1
    have hrest := List.length_pos_iff.mpr htop.1
    refine ⟨name, host ++ '.' :: top, heq, hname.1, host.length, hpos, ?_, by simp⟩
    rw [List.length_append, List.length_cons]
    omega

theorem Grammatical.exists_parts {email : String} (h : Grammatical email) :
    ∃ name host top, email.toList = name ++ '@' :: (host ++ '.' :: top) ∧
      IsPart name ∧ IsPart host ∧ IsPart top := by
  obtain ⟨hunblank, hsingle, name, domain, heq, hname, i, hpos, hlast, hdot⟩ := h
  obtain ⟨host, top, rfl, hhost, htop⟩ := exists_cut hpos hlast hdot
  rw [heq] at hunblank hsingle
  -- The one at-sign is the one between the name and the domain.
  have hnone : name.count '@' = 0 ∧ host.count '@' = 0 ∧ top.count '@' = 0 := by
    simp at hsingle
    omega
  have hpart {part : List Char} (hne : part ≠ []) (hcount : part.count '@' = 0)
      (hsub : part ⊆ name ++ '@' :: (host ++ '.' :: top)) : IsPart part := by
    refine ⟨hne, fun c hc => ⟨?_, hunblank c (hsub hc)⟩⟩
    rintro rfl
    exact List.count_eq_zero.mp hcount hc
  refine ⟨name, host, top, heq, hpart hname hnone.1 ?_, hpart hhost hnone.2.1 ?_,
    hpart htop hnone.2.2 ?_⟩
  all_goals
    intro c hc
    simp [hc]

/-- The pattern accepts what the grammar describes, at whichever dot the domain is cut. -/
theorem wellFormed_iff {email : String} : wellFormed email = true ↔ Grammatical email := by
  rw [wellFormed, Text.Pattern.accepts_iff, matches_pattern_iff]
  constructor
  · rintro ⟨name, host, top, heq, hname, hhost, htop⟩
    exact .of_parts heq hname hhost htop
  · exact Grammatical.exists_parts

/-- Dots may stand in a row, but two of them have nothing around the one in the middle. -/
example : wellFormed "a@..." = true ∧ wellFormed "a@.." = false := by decide

/-- Blank addresses, and only they, are taken for none. -/
theorem normalize_eq_none_iff {email : Option String} :
    normalize email = none ↔
      ∀ text, email = some text → ∀ c ∈ text.toList, Text.isBlank c = true := by
  cases email with
  | none => simp [normalize]
  | some text =>
    have hblank : Text.lowercase (Text.trim text) = "" ↔
        ∀ c ∈ text.toList, Text.isBlank c = true := by
      rw [Text.lowercase_eq_empty_iff, ← String.toList_eq_nil_iff, Text.toList_trim,
        Text.trimmed_eq_nil_iff]
    rw [normalize, Option.map_some, Option.filter_eq_none_iff]
    simpa using hblank

end Email

namespace Store

/-- The address of an account, if there is such an account and it has one. -/
def email? (s : Store) (id : Uuid) : Option (Option String) :=
  s.accounts[id]?.map (·.account.email)

/-- Only opening an account writes an address. -/
theorem hidden_email {p : Part} (h : p ≠ .accounts) : p.Hidden email? := by
  have hmodify (s : Store) (id : Uuid) {f : AccountRecord → AccountRecord}
      (hf : ∀ r, (f r).account.email = r.account.email) :
      (s.modifyAccount id f).email? = s.email? := by
    funext user
    unfold email?
    rw [modifyAccount_get]
    split
    next hu => rw [hu, Option.map_map, Function.comp_def]; simp only [hf]
    next => rfl
  intro s s' hw
  cases hw with
  | account => exact absurd rfl h
  | credentials | token | rights => exact hmodify s _ fun _ => rfl
  | ledger | roles | contexts => rfl

variable {c : Settings} {now : Circumstances} {q : Registration} {s s' : Store}

open Authentication (Registration.validate)

/-- An account that is opened has the address that the registration brings. -/
theorem email?_insert (s : Store) (now : Circumstances) (q : Registration) (id : Uuid) :
    ({ s with accounts := s.accounts.insert now.entropy.id (q.record now) } : Store).email? id =
      if id = now.entropy.id then some (Email.normalize q.email) else s.email? id := by
  simp only [email?, Std.ExtTreeMap.getElem?_insert, Std.LawfulEqCmp.compare_eq_iff_eq]
  by_cases h : id = now.entropy.id
  · simp [h, Turnstile.Registration.record, Authentication.Registration.account, NewAccount.record]
  · simp [h, Ne.symm h]

theorem grammatical_of_validate {email : String} (hvalid : Registration.validate q = .ok ())
    (he : Email.normalize q.email = some email) : Email.Grammatical email := by
  obtain ⟨_, -, h⟩ := ok_of_bind hvalid
  rw [he] at h
  dsimp only at h
  split at h
  next hformed => exact Email.wellFormed_iff.mp hformed
  next => cases h

theorem email?_of_registered {id : Uuid}
    (h : Event.answer c ⟨now, .register q⟩ (.ready s) = (.ok (.registered id), .ready s')) :
    s'.email? id = some (Email.normalize q.email) ∧
      ∀ email, Email.normalize q.email = some email → Email.Grammatical email := by
  rcases Event.answer_register_cases c now q s with ⟨e, -, he⟩ | ⟨hv, ⟨-, he⟩ | ⟨-, he⟩⟩ <;>
    cases h.symm.trans he
  exact ⟨by rw [email?_insert, if_pos rfl], fun _ => grammatical_of_validate hv⟩

/-- Whoever is in the way of a registration has its phone, or the address that both have. -/
theorem exists_of_conflict {message : String}
    (h : (Event.answer c ⟨now, .register q⟩ (.ready s)).1 = .error (.conflict message)) :
    ∃ r ∈ s.records, r.account.phone = Phone.normalize q.phone ∨
      ∃ email, Email.normalize q.email = some email ∧ r.account.email = some email := by
  rcases Event.answer_register_cases c now q s with ⟨e, hv, he⟩ | ⟨-, ⟨htaken, -⟩ | ⟨-, he⟩⟩
  · obtain ⟨text, rfl⟩ := Authentication.Registration.exists_validation hv
    rw [he] at h
    cases h
  · exact accountExists_iff.mp htaken
  · rw [he] at h
    cases h

/-- Without an address nothing but the phone can be taken. -/
theorem exists_registered (hnone : Email.normalize q.email = none)
    (hvalid : Registration.validate q = .ok ())
    (hfree : s.phoneTaken (Phone.normalize q.phone) = false) :
    ∃ s', Event.answer c ⟨now, .register q⟩ (.ready s) =
        (.ok (.registered now.entropy.id), .ready s') ∧
      s'.email? now.entropy.id = some none := by
  rcases Event.answer_register_cases c now q s with ⟨e, hv, -⟩ | ⟨-, ⟨htaken, -⟩ | ⟨-, he⟩⟩
  · cases hvalid.symm.trans hv
  · simp [accountExists, hnone, hfree] at htaken
  · exact ⟨_, he, by rw [email?_insert, if_pos rfl, hnone]⟩

/-- All addresses are as the grammar has them. -/
def EmailsGrammatical (s : Store) : Prop :=
  ∀ id email, s.email? id = some (some email) → Email.Grammatical email

theorem EmailsGrammatical.event (h : s.EmailsGrammatical) {e : Event}
    (he : (e.answer c (.ready s)).2 = .ready s') : s'.EmailsGrammatical := by
  obtain ⟨now, o⟩ := e
  cases o with
  | register q =>
    rcases Event.answer_register_cases c now q s with ⟨_, -, hx⟩ | ⟨hv, ⟨-, hx⟩ | ⟨-, hx⟩⟩ <;>
      rw [hx] at he <;> cases he
    · exact h
    · exact h
    · intro id email hemail
      rw [email?_insert] at hemail
      split at hemail
      next => exact grammatical_of_validate hv (Option.some.inj hemail)
      next => exact h id email hemail
  | _ =>
    have hview : s'.email? = s.email? :=
      Event.view_eq he fun p hp => hidden_email (by rintro rfl; simp [Operation.parts] at hp)
    unfold EmailsGrammatical
    rw [hview]
    exact h

end Store

namespace Database

open Store
open Authentication (Registration.validate)

theorem emails_after (c : Settings) (events : List Event) :
    ∃ s, (ready .empty).after c events = .ready s ∧ s.EmailsGrammatical := by
  refine after_induction (Q := fun _ => True) (P := fun _ => EmailsGrammatical) (fun _ => trivial)
    ?_ ?_ trivial
  · intro id email h
    simp [email?, Store.empty] at h
  · exact fun _ _ hs he => hs.event he

/-- The pattern accepts exactly the addresses of the grammar. After every run each address that an
account has is one of them; what an account is opened with is the address that was sent, trimmed
and in lower case, or none if it was blank. A conflict is over a phone or over an address that both
have, so that blank addresses never conflict. -/
theorem emails_follow_grammar (c : Settings) :
    (∀ email, Email.wellFormed email = true ↔ Email.Grammatical email) ∧
    (∀ events, ∃ s, (ready .empty).after c events = .ready s ∧
      ∀ id email, s.email? id = some (some email) → Email.Grammatical email) ∧
    (∀ (s s' : Store) (now : Circumstances) (q : Registration) (id : Uuid),
      Event.answer c ⟨now, .register q⟩ (.ready s) = (.ok (.registered id), .ready s') →
        s'.email? id = some (Email.normalize q.email) ∧
        ∀ email, Email.normalize q.email = some email → Email.Grammatical email) ∧
    (∀ (s : Store) (now : Circumstances) (q : Registration) (message : String),
      (Event.answer c ⟨now, .register q⟩ (.ready s)).1 = .error (.conflict message) →
        ∃ r ∈ s.records, r.account.phone = Phone.normalize q.phone ∨
          ∃ email, Email.normalize q.email = some email ∧ r.account.email = some email) ∧
    ∀ (s : Store) (now : Circumstances) (q : Registration),
      (∀ text, q.email = some text → ∀ ch ∈ text.toList, Text.isBlank ch = true) →
        Email.normalize q.email = none ∧
        (Registration.validate q = .ok () → s.phoneTaken (Phone.normalize q.phone) = false →
          ∃ s', Event.answer c ⟨now, .register q⟩ (.ready s) =
              (.ok (.registered now.entropy.id), .ready s') ∧
            s'.email? now.entropy.id = some none) := by
  refine ⟨fun _ => Email.wellFormed_iff, emails_after c, ?_, ?_, ?_⟩
  · exact fun _ _ _ _ _ => email?_of_registered
  · exact fun _ _ _ _ => exists_of_conflict
  · intro s now q hblank
    have hnone := Email.normalize_eq_none_iff.mpr hblank
    exact ⟨hnone, exists_registered hnone⟩

/-- A second account is opened with a blank address beside one that has none. -/
theorem blank_emails_side_by_side :
    let c := Settings.ofSecret "secret"
    let now (id : Uuid) : Circumstances := ⟨⟨.ofSeconds 0 0, .ofSeconds 0 0⟩, ⟨id, [], []⟩⟩
    let first : Event := ⟨now ⟨1⟩, .register ⟨"+15551234567", none, "Passw0rd!", none, none⟩⟩
    let q : Registration := ⟨"+442079460000", some " \t ", "Passw0rd!", none, none⟩
    ∃ s s', (ready .empty).after c [first] = .ready s ∧ s.email? ⟨1⟩ = some none ∧
      Event.answer c ⟨now ⟨2⟩, .register q⟩ (.ready s) = (.ok (.registered ⟨2⟩), .ready s') ∧
      s'.email? ⟨2⟩ = some none := by
  intro c now first q
  obtain ⟨-, hrun, hstored, -, hblank⟩ := emails_follow_grammar c
  obtain ⟨s, hs, -⟩ := hrun [first]
  have hfree : ((ready .empty).after c [first]).store?.all
      (!·.phoneTaken (Phone.normalize q.phone)) = true := by decide +kernel
  have hfirst : (Event.answer c first (ready .empty)).1 = .ok (.registered ⟨1⟩) := by
    decide +kernel
  have hopened := hstored .empty s (now ⟨1⟩) _ ⟨1⟩ (Prod.ext hfirst hs)
  rw [hs] at hfree
  have hspaces : ∀ text, q.email = some text → ∀ ch ∈ text.toList, Text.isBlank ch = true := by
    rintro _ ⟨⟩
    exact List.all_eq_true.mp (by decide)
  obtain ⟨-, hregistered⟩ := hblank s (now ⟨2⟩) q hspaces
  obtain ⟨s', hanswer, hemail⟩ := hregistered (by decide +kernel)
    (by simpa [Database.store?] using hfree)
  exact ⟨s, s', hs, hopened.1, hanswer, hemail⟩

end Database

end Turnstile
