import Mathlib.Data.List.Find
import Turnstile.Proofs.Merging

/-! Revoking is the difference of sets, all or nothing. The sections are gone through in their order,
and the loop takes from the same rights that it checks; as no section comes twice, each check meets
the section as it was at the start. -/
namespace Turnstile.Rights

variable (current revoked r : Rights)

/-- The section is to be revoked and is not there. -/
def Lacks (s : Section) : Prop := revoked.get? s ≠ none ∧ current.get? s = none

instance (s : Section) : Decidable (current.Lacks revoked s) := inferInstanceAs (Decidable (_ ∧ _))

/-- What is left of an entry. A section that is not named stays as it is. One that is named without
permissions goes, and so does one with nothing left. -/
def remainder (held : Option PermissionSet) : Option PermissionSet → Option PermissionSet
  | none => held
  | some ps => if ps.isEmpty then none else (held.map (·.diff ps)).filter (!·.isEmpty)

/-- The permission is to be revoked, by itself or with its whole section. -/
def Revokes (s : Section) (p : Permission) : Prop :=
  ∃ ps, revoked.get? s = some ps ∧ (ps.isEmpty = true ∨ ps.contains p = true)

variable {current revoked r}

theorem revokeEntry_eq {s : Section} {held : PermissionSet} (h : r.get? s = some held)
    (ps : PermissionSet) :
    r.revokeEntry (s, ps) = .ok (r.set s (remainder (some held) (some ps))) := by
  rw [revokeEntry, h, remainder]
  cases hps : ps.isEmpty with
  | true => rfl
  | false =>
    cases hleft : (held.diff ps).isEmpty <;>
      simp [hleft, remove, put, Option.filter_some]

/-- Another section's entry does not matter to whether one is missing. -/
theorem lacks_set_iff {s t : Section} (hne : s ≠ t) (entry : Option PermissionSet) :
    (r.set t entry).Lacks revoked s ↔ r.Lacks revoked s := by
  rw [Lacks, Lacks, get?_set, if_neg hne]

/-- The rights once the sections of a list have been gone through. -/
def revokedAt (r revoked : Rights) (l : List Section) : Rights :=
  ofFn fun s => if s ∈ l then remainder (r.get? s) (revoked.get? s) else r.get? s

theorem revokedAt_nil : r.revokedAt revoked [] = r :=
  ext_get? fun s => by rw [revokedAt, get?_ofFn, if_neg List.not_mem_nil]

theorem revokedAt_cons {t : Section} {l : List Section} (hnotMem : t ∉ l) :
    r.revokedAt revoked (t :: l) =
      (r.set t (remainder (r.get? t) (revoked.get? t))).revokedAt revoked l := by
  refine ext_get? fun s => ?_
  simp only [revokedAt, get?_ofFn, get?_set, List.mem_cons]
  by_cases hs : s = t
  · subst hs
    simp [hnotMem]
  · simp [hs]

/-- Sections revoked one after another. The first that is missing stops it; if none is, they have all
been gone through. -/
theorem foldlM_revokeEntry (revoked : Rights) {l : List Section} (hl : l.Nodup) (r : Rights) :
    (l.filterMap fun s => (revoked.get? s).map fun ps => (s, ps)).foldlM revokeEntry r =
      match l.find? fun s => decide (r.Lacks revoked s) with
      | some s => .error (.sectionNotFound s.name)
      | none => .ok (r.revokedAt revoked l) := by
  induction l generalizing r with
  | nil => exact congrArg Except.ok revokedAt_nil.symm
  | cons t l ih =>
    obtain ⟨hnotMem, hl⟩ := List.nodup_cons.mp hl
    cases ht : revoked.get? t with
    | none =>
      have hthere : ¬ r.Lacks revoked t := fun h => h.1 ht
      have hsame : r.set t (remainder (r.get? t) none) = r := by
        refine ext_get? fun s => ?_
        rw [get?_set]
        split
        next hs => rw [hs]; rfl
        next => rfl
      rw [List.filterMap_cons_none (by rw [ht]; rfl), ih hl,
        List.find?_cons_of_neg (by simpa using hthere), revokedAt_cons hnotMem, ht, hsame]
    | some ps =>
      rw [List.filterMap_cons_some (by rw [ht]; rfl), List.foldlM_cons]
      cases hheld : r.get? t with
      | none =>
        have hlacks : r.Lacks revoked t := ⟨by simp [ht], hheld⟩
        rw [List.find?_cons_of_pos (by simpa using hlacks), revokeEntry, hheld]
        rfl
      | some held =>
        have hthere : ¬ r.Lacks revoked t := fun h => by simp [h.2] at hheld
        -- the checks that follow look at other sections
        have hfind (entry) : (l.find? fun s => decide ((r.set t entry).Lacks revoked s)) =
            l.find? fun s => decide (r.Lacks revoked s) :=
          List.find?_congr fun s hs =>
            decide_eq_decide.mpr (lacks_set_iff (ne_of_mem_of_not_mem hs hnotMem) entry)
        rw [revokeEntry_eq hheld]
        change List.foldlM _ _ _ = _
        rw [ih hl, hfind, List.find?_cons_of_neg (by simpa using hthere), revokedAt_cons hnotMem,
          hheld, ht]

/-- The whole of it. -/
theorem revoke_eq : current.revoke revoked =
    match Section.all.find? fun s => decide (current.Lacks revoked s) with
    | some s => .error (.sectionNotFound s.name)
    | none => .ok (ofFn fun s => remainder (current.get? s) (revoked.get? s)) := by
  have h := foldlM_revokeEntry revoked Section.nodup_all current
  simp only [revokedAt, Section.mem_all, if_true] at h
  exact h

/-- It fails at the first section that is missing. -/
theorem revoke_eq_error_iff {e : Error} : current.revoke revoked = .error e ↔
    ∃ before s after, Section.all = before ++ s :: after ∧
      (∀ t ∈ before, ¬ current.Lacks revoked t) ∧ current.Lacks revoked s ∧
      e = .sectionNotFound s.name := by
  have hfirst (s : Section) :
      Section.all.find? (fun t => decide (current.Lacks revoked t)) = some s ↔
        ∃ before after, Section.all = before ++ s :: after ∧
          (∀ t ∈ before, ¬ current.Lacks revoked t) ∧ current.Lacks revoked s := by
    rw [List.find?_eq_some_iff_append]
    simp only [decide_eq_true_eq, Bool.not_eq_true', decide_eq_false_iff_not]
    tauto
  rw [revoke_eq]
  cases h : Section.all.find? fun t => decide (current.Lacks revoked t) with
  | none =>
    refine ⟨fun he => (nomatch he), ?_⟩
    rintro ⟨before, s, after, hall, hbefore, hs, -⟩
    exact absurd ((hfirst s).mpr ⟨before, after, hall, hbefore, hs⟩) (by simp [h])
  | some s =>
    obtain ⟨before, after, hall, hbefore, hs⟩ := (hfirst s).mp h
    constructor
    · intro he
      exact ⟨before, s, after, hall, hbefore, hs, (Except.error.inj he).symm⟩
    · rintro ⟨before', s', after', hall', hbefore', hs', rfl⟩
      have hsame := (hfirst s').mpr ⟨before', after', hall', hbefore', hs'⟩
      rw [h] at hsame
      rw [Option.some.inj hsame]

/-- It succeeds when no section is missing. -/
theorem revoke_eq_ok_iff : current.revoke revoked = .ok r ↔
    (∀ s, ¬ current.Lacks revoked s) ∧
      ∀ s, r.get? s = remainder (current.get? s) (revoked.get? s) := by
  rw [revoke_eq]
  cases h : Section.all.find? fun t => decide (current.Lacks revoked t) with
  | none =>
    have hthere (s : Section) : ¬ current.Lacks revoked s := by
      simpa using List.find?_eq_none.mp h s s.mem_all
    constructor
    · intro he
      obtain rfl := Except.ok.inj he
      exact ⟨hthere, fun s => get?_ofFn ..⟩
    · rintro ⟨-, hr⟩
      exact congrArg Except.ok (ext_get? fun s => by rw [get?_ofFn, hr])
  | some s =>
    have hs : current.Lacks revoked s := by simpa using List.find?_some h
    exact ⟨fun he => (nomatch he), fun ⟨hthere, _⟩ => absurd hs (hthere s)⟩

/-- A set without permissions can be dropped. -/
theorem any_contains_filter (held : Option PermissionSet) (p : Permission) :
    (held.filter (!·.isEmpty)).any (·.contains p) = held.any (·.contains p) := by
  cases held with
  | none => rfl
  | some ps =>
    cases hps : ps.isEmpty with
    | true => simp [hps, PermissionSet.isEmpty_iff.mp hps p]
    | false => simp [hps]

/-- No revoked permission survives, and no other is lost. -/
theorem contains_of_revoke (h : current.revoke revoked = .ok r) (s : Section) (p : Permission) :
    r.contains s p = true ↔ current.contains s p = true ∧ ¬ revoked.Revokes s p := by
  obtain ⟨-, hr⟩ := revoke_eq_ok_iff.mp h
  rw [contains, contains, hr, Revokes]
  cases revoked.get? s with
  | none => simp [remainder]
  | some ps =>
    rw [remainder]
    cases hps : ps.isEmpty with
    | true => simp [hps]
    | false =>
      rw [if_neg Bool.false_ne_true, any_contains_filter]
      cases current.get? s <;> simp [hps]

namespace Compact

/-- Compact rights have a section when they have a permission in it. -/
theorem get?_eq_none_iff (h : r.Compact) (s : Section) :
    r.get? s = none ↔ ∀ p, r.contains s p = false := by
  cases hs : r.get? s with
  | none => simp [contains, hs]
  | some ps =>
    constructor
    · intro he
      cases he
    · intro hnone
      have hempty : ps.isEmpty = true :=
        PermissionSet.isEmpty_iff.mpr fun p => by simpa [contains, hs] using hnone p
      simp [h s ps hs] at hempty

/-- Compact rights are told apart by their permissions. -/
theorem ext_contains (hr : r.Compact) (hc : current.Compact)
    (h : ∀ s p, r.contains s p = current.contains s p) : r = current := by
  refine ext_get? fun s => ?_
  have hnone : r.get? s = none ↔ current.get? s = none := by
    simp only [hr.get?_eq_none_iff, hc.get?_eq_none_iff, h]
  cases hrs : r.get? s with
  | none => exact (hnone.mp hrs).symm
  | some ps =>
    cases hcs : current.get? s with
    | none =>
      rw [hnone.mpr hcs] at hrs
      cases hrs
    | some held =>
      refine congrArg some (PermissionSet.ext_contains fun p => ?_)
      simpa [contains, hrs, hcs] using h s p

/-- Compact rights revoke what they have. -/
theorem revokes_iff (h : revoked.Compact) (s : Section) (p : Permission) :
    revoked.Revokes s p ↔ revoked.contains s p = true := by
  rw [Revokes, contains, Option.any_eq_true]
  refine exists_congr fun ps => and_congr_right fun hps => ?_
  simp [h s ps hps]

/-- What was merged in can be taken out again, and takes with it only what both sides had. -/
theorem revoke_merge (hc : current.Compact) (hrev : revoked.Compact) :
    ∃ r, (current.merge revoked).revoke revoked = .ok r ∧
      (∀ s p, r.contains s p = (current.contains s p && !revoked.contains s p)) ∧
      ((∀ s p, current.contains s p = true → revoked.contains s p = false) → r = current) := by
  have hthere (s : Section) : ¬ (current.merge revoked).Lacks revoked s := by
    rintro ⟨hnamed, hmissing⟩
    rw [get?_merge, Option.merge_eq_none_iff] at hmissing
    exact hnamed hmissing.2
  obtain ⟨r, hr⟩ : ∃ r, (current.merge revoked).revoke revoked = .ok r :=
    ⟨_, revoke_eq_ok_iff.mpr ⟨hthere, fun s => get?_ofFn ..⟩⟩
  have hleft (s : Section) (p : Permission) :
      r.contains s p = (current.contains s p && !revoked.contains s p) := by
    rw [Bool.eq_iff_iff, contains_of_revoke hr, hrev.revokes_iff, contains_merge]
    cases current.contains s p <;> cases revoked.contains s p <;> simp
  refine ⟨r, hr, hleft, fun hapart => ?_⟩
  refine ext_contains ((hc.merge hrev).revoke hr) hc fun s p => ?_
  rw [hleft]
  cases hp : current.contains s p with
  | false => rfl
  | true => rw [hapart s p hp]; rfl

end Compact

/-- For whatever rights, those with sections without permissions among them, revoking fails exactly
when a section to be revoked is missing, and tells the first of these in the order of sections;
otherwise every section is left with what remains of it, so that exactly the permissions are gone
that were to be revoked. What is revoked from compact rights that it was merged into leaves the
permissions that it does not have, and the rights as they were before the merge when it shares none
with them. -/
theorem revoke_exact (current revoked : Rights) :
    ((∃ e, current.revoke revoked = .error e) ↔ ∃ s, current.Lacks revoked s) ∧
      (∀ e, current.revoke revoked = .error e ↔
        ∃ before s after, Section.all = before ++ s :: after ∧
          (∀ t ∈ before, ¬ current.Lacks revoked t) ∧ current.Lacks revoked s ∧
          e = .sectionNotFound s.name) ∧
      (∀ r, current.revoke revoked = .ok r ↔ (∀ s, ¬ current.Lacks revoked s) ∧
        ∀ s, r.get? s = remainder (current.get? s) (revoked.get? s)) ∧
      (∀ r, current.revoke revoked = .ok r → ∀ s p,
        r.contains s p = true ↔ current.contains s p = true ∧ ¬ revoked.Revokes s p) ∧
      (current.Compact → revoked.Compact → ∃ r, (current.merge revoked).revoke revoked = .ok r ∧
        (∀ s p, r.contains s p = (current.contains s p && !revoked.contains s p)) ∧
        ((∀ s p, current.contains s p = true → revoked.contains s p = false) → r = current)) := by
  refine ⟨?_, fun e => revoke_eq_error_iff, fun r => revoke_eq_ok_iff,
    fun r => contains_of_revoke, Compact.revoke_merge⟩
  cases h : current.revoke revoked with
  | ok r =>
    have hthere := (revoke_eq_ok_iff.mp h).1
    exact ⟨fun ⟨_, he⟩ => (nomatch he), fun ⟨s, hs⟩ => absurd hs (hthere s)⟩
  | error e =>
    obtain ⟨-, s, -, -, -, hs, -⟩ := revoke_eq_error_iff.mp h
    exact ⟨fun _ => ⟨s, hs⟩, fun _ => ⟨e, rfl⟩⟩

/-- One section goes as it is named without permissions, one keeps what is not named, one goes as
nothing is left of it, and one that was merged in goes again. -/
theorem sections_revoked :
    let current := ((empty.put .orders (.ofList [.read])).put .catalog
      (.ofList [.create, .delete])).put .char (.ofList [.update])
    let named := ((empty.put .orders .empty).put .catalog (.ofList [.create, .read])).put .char
      (.ofList [.update, .read])
    let other := empty.put .history (.ofList [.read])
    current.revoke named = .ok (empty.put .catalog (.ofList [.delete])) ∧
      (current.contains .catalog .delete = true ∧ ¬ named.Revokes .catalog .delete) ∧
      current.Compact ∧ other.Compact ∧
      (current.merge other).revoke other = .ok current ∧
      current.revoke other = .error (.sectionNotFound "HISTORY") := by
  intro current named other
  have hcurrent : current.Compact := ((compact_empty.put _ rfl).put _ rfl).put _ rfl
  have hother : other.Compact := compact_empty.put _ rfl
  have hleft : current.revoke named = .ok (empty.put .catalog (.ofList [.delete])) := by
    decide +kernel
  obtain ⟨-, -, -, hgone, -⟩ := revoke_exact current named
  obtain ⟨-, hfails, -, -, hmerged⟩ := revoke_exact current other
  obtain ⟨r, hr, -, hsame⟩ := hmerged hcurrent hother
  have hapart (s : Section) (p : Permission) :
      current.contains s p = true → other.contains s p = false := by
    cases s <;> cases p <;> decide
  rw [hsame hapart] at hr
  exact ⟨hleft, (hgone _ hleft .catalog .delete).mp (by decide), hcurrent, hother, hr,
    (hfails _).mpr ⟨Section.all.dropLast, .history, [], by decide, by decide, by decide, rfl⟩⟩

end Turnstile.Rights
