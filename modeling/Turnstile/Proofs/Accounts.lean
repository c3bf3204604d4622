import Turnstile.Proofs.Frames

/-! Accounts and the refresh tokens they hold. Records are filed under the identifier they carry, so
each store function on tokens is told by what it makes of one user's grant. -/
namespace Turnstile.Store

/-- Every record is filed under its own identifier. -/
def Keyed (s : Store) : Prop :=
  ∀ (id : Uuid) (r : AccountRecord), s.accounts[id]? = some r → r.account.id = id

/-- What a user may refresh with. -/
def grant? (s : Store) (user : Uuid) : Option RefreshGrant := s.accounts[user]?.bind (·.refresh)

variable {s : Store}

theorem modifyAccount_get (s : Store) (id : Uuid) (f : AccountRecord → AccountRecord)
    (user : Uuid) :
    (s.modifyAccount id f).accounts[user]? =
      if user = id then s.accounts[id]?.map f else s.accounts[user]? := by
  simp only [modifyAccount, Std.ExtTreeMap.getElem?_modify, Std.LawfulEqCmp.compare_eq_iff_eq]
  by_cases h : user = id
  · simp [h]
  · simp [h, Ne.symm h]

theorem keyed_empty : empty.Keyed := by
  intro id r h
  simp [empty] at h

theorem Keyed.insert (hk : s.Keyed) (a : NewAccount) (now : Instant) :
    ({ s with accounts := s.accounts.insert a.id (a.record now) } : Store).Keyed := by
  intro id r h
  simp only [Std.ExtTreeMap.getElem?_insert, Std.LawfulEqCmp.compare_eq_iff_eq] at h
  split at h
  next he =>
    obtain rfl := Option.some.inj h
    exact he
  next => exact hk id r h

theorem keyed_modifyAccount_iff (id : Uuid) {f : AccountRecord → AccountRecord}
    (hf : ∀ r, (f r).account.id = r.account.id) : (s.modifyAccount id f).Keyed ↔ s.Keyed := by
  refine forall_congr' fun user => ?_
  rw [modifyAccount_get]
  by_cases h : user = id
  · subst h
    cases s.accounts[user]? <;> simp [hf]
  · simp [h]

/-- Only adding an account touches what records are filed under. -/
theorem hidden_keyed {p : Part} (h : p ≠ .accounts) : p.Hidden Keyed := by
  intro s s' hw
  cases hw with
  | account => exact absurd rfl h
  | credentials | token | rights => exact propext (keyed_modifyAccount_iff _ fun _ => rfl)
  | ledger | roles | contexts => rfl

theorem Keyed.write (hk : s.Keyed) (id : Uuid) (g : Option RefreshGrant) :
    (s.modifyAccount id fun r => { r with refresh := g }).Keyed :=
  (hidden_keyed (by decide) _ _ (.token id g)).mpr hk

theorem grant?_modifyAccount (s : Store) (id : Uuid) {f : AccountRecord → AccountRecord}
    (hf : ∀ r, (f r).refresh = r.refresh) (user : Uuid) :
    (s.modifyAccount id f).grant? user = s.grant? user := by
  unfold grant?
  rw [modifyAccount_get]
  split
  next h => rw [h, Option.bind_map, Function.comp_def]; simp only [hf]
  next => rfl

theorem hidden_grant {p : Part} (ha : p ≠ .accounts) (ht : p ≠ .tokens) : p.Hidden grant? := by
  intro s s' hw
  cases hw with
  | account => exact absurd rfl ha
  | token => exact absurd rfl ht
  | credentials | rights =>
    funext user
    apply s.grant?_modifyAccount
    exact fun _ => rfl
  | ledger | roles | contexts => rfl

theorem grant?_eq_some_iff {user : Uuid} {g : RefreshGrant} :
    s.grant? user = some g ↔ ∃ r, s.accounts[user]? = some r ∧ r.refresh = some g :=
  Option.bind_eq_some_iff

theorem grant?_insert (s : Store) (a : NewAccount) (now : Instant) (user : Uuid) :
    ({ s with accounts := s.accounts.insert a.id (a.record now) } : Store).grant? user =
      if user = a.id then none else s.grant? user := by
  simp only [grant?, Std.ExtTreeMap.getElem?_insert, Std.LawfulEqCmp.compare_eq_iff_eq]
  by_cases h : user = a.id
  · simp [h, NewAccount.record]
  · simp [h, Ne.symm h]

theorem exists_record {id : Uuid} (h : id ∈ s.accounts) : ∃ r, s.accounts[id]? = some r :=
  Option.isSome_iff_exists.mp (Std.ExtTreeMap.isSome_getElem?_iff_mem.mpr h)

/-- A user's grant after a token was written for some user that exists. -/
theorem grant?_write (s : Store) {id : Uuid} (h : id ∈ s.accounts) (g : Option RefreshGrant)
    (user : Uuid) :
    (s.modifyAccount id fun r => { r with refresh := g }).grant? user =
      if user = id then g else s.grant? user := by
  unfold grant?
  rw [modifyAccount_get]
  split
  next =>
    obtain ⟨r, hr⟩ := exists_record h
    simp [hr]
  next => rfl

theorem mem_of_grant? {id : Uuid} {g : RefreshGrant} (h : s.grant? id = some g) :
    id ∈ s.accounts := by
  obtain ⟨r, hr, -⟩ := grant?_eq_some_iff.mp h
  exact Std.ExtTreeMap.isSome_getElem?_iff_mem.mp (by rw [hr]; rfl)

/-- An account found by its phone is on file under its identifier. -/
theorem Keyed.mem_of_accountByPhone? (hk : s.Keyed) {phone : String} {a : Account}
    (h : s.accountByPhone? phone = some a) : a.id ∈ s.accounts := by
  obtain ⟨r, hr, rfl⟩ := Option.map_eq_some_iff.mp h
  obtain ⟨id, hid⟩ := mem_records.mp (List.mem_of_find?_eq_some hr)
  rw [hk id r hid]
  exact Std.ExtTreeMap.isSome_getElem?_iff_mem.mp (by rw [hid]; rfl)

/-- An account found by its identifier carries it. -/
theorem Keyed.id_of_account? (hk : s.Keyed) {id : Uuid} {a : Account} (h : s.account? id = some a) :
    a.id = id := by
  obtain ⟨r, hr, rfl⟩ := Option.map_eq_some_iff.mp h
  exact hk id r hr

theorem saveRefresh_eq {id : Uuid} (h : id ∈ s.accounts) (g : RefreshGrant) :
    s.saveRefresh id g = (.ok (), s.modifyAccount id fun r => { r with refresh := some g }) := by
  simp [saveRefresh, h]

/-- The owner of a token holds it unlapsed. -/
theorem Keyed.grant?_of_refreshOwner? (hk : s.Keyed) {digest : Bytes} {now : Instant} {user : Uuid}
    (h : s.refreshOwner? digest now = some user) :
    ∃ g, s.grant? user = some g ∧ g.digest = digest ∧ now < g.expiresAt := by
  obtain ⟨r, hr, rfl⟩ := Option.map_eq_some_iff.mp h
  obtain ⟨id, hid⟩ := mem_records.mp (List.mem_of_find?_eq_some hr)
  have hholds := List.find?_some hr
  obtain ⟨g, hg, hd⟩ := (Option.any_eq_true _ _).mp hholds
  rw [hk id r hid]
  exact ⟨g, grant?_eq_some_iff.mpr ⟨r, hid, hg⟩, of_decide_eq_true hd⟩

/-- A token that someone holds unlapsed has an owner. -/
theorem refreshOwner?_ne_none {digest : Bytes} {now : Instant} {user : Uuid} {g : RefreshGrant}
    (h : s.grant? user = some g) (hd : g.digest = digest) (hn : now < g.expiresAt) :
    s.refreshOwner? digest now ≠ none := by
  obtain ⟨r, hr, hg⟩ := grant?_eq_some_iff.mp h
  intro hnone
  have := List.find?_eq_none.mp (Option.map_eq_none_iff.mp hnone) r (mem_records.mpr ⟨user, hr⟩)
  simp [hg, hd, hn] at this

theorem rotateRefresh_eq (s : Store) (id : Uuid) (current : Bytes) (next : RefreshGrant) :
    s.rotateRefresh id current next =
      if (s.grant? id).any (·.digest = current) then
        (true, s.modifyAccount id fun r => { r with refresh := some next })
      else (false, s) := by
  unfold rotateRefresh grant?
  cases s.accounts[id]? <;> rfl

/-- Either someone held the token and no longer does, or nobody did and nothing changed. -/
theorem revokeRefresh_cases (s : Store) (digest : Bytes) :
    (∃ id g, s.grant? id = some g ∧ g.digest = digest ∧
      s.revokeRefresh digest = (true, s.modifyAccount id fun r => { r with refresh := none })) ∨
    ((∀ id g, s.grant? id = some g → g.digest ≠ digest) ∧ s.revokeRefresh digest = (false, s)) := by
  unfold revokeRefresh
  split
  next e he =>
    refine .inl ⟨e.1, ?_⟩
    have hmem := Std.ExtTreeMap.mem_toList_iff_getElem?_eq_some.mp (List.mem_of_find?_eq_some he)
    have hholds := List.find?_some he
    obtain ⟨g, hg, hd⟩ := (Option.any_eq_true _ _).mp hholds
    exact ⟨g, grant?_eq_some_iff.mpr ⟨e.2, hmem, hg⟩, of_decide_eq_true hd, rfl⟩
  next hnone =>
    refine .inr ⟨fun id g hg hd => ?_, rfl⟩
    obtain ⟨r, hr, hg⟩ := grant?_eq_some_iff.mp hg
    have := List.find?_eq_none.mp hnone (id, r)
      (Std.ExtTreeMap.mem_toList_iff_getElem?_eq_some.mpr hr)
    simp [AccountRecord.holds, hg, hd] at this

end Turnstile.Store
