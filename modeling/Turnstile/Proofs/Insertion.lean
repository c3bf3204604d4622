import Turnstile.Proofs.Accounts
import Turnstile.Store.Rights

/-! What an insertion leaves of the entries that are there. It is checked by phone, email or name and
filed by identifier, so it is an addition as long as the identifier is free, and no longer. -/
namespace Turnstile.Store

variable {β : Type} {m m' : Std.ExtTreeMap Uuid β} {id : Uuid} {b : β}

/-- The entry is filed under the identifier and nothing else is written. -/
structure Filed (m : Std.ExtTreeMap Uuid β) (id : Uuid) (b : β) (m' : Std.ExtTreeMap Uuid β) :
    Prop where
  found : m'[id]? = some b
  others : ∀ other, other ≠ id → m'[other]? = m[other]?
  size : m'.size = if id ∈ m then m.size else m.size + 1

/-- There is one entry more, and all those that were there are as they were. -/
structure Extends (m m' : Std.ExtTreeMap Uuid β) : Prop where
  size : m'.size = m.size + 1
  kept : ∀ (other : Uuid) e, m[other]? = some e → m'[other]? = some e

theorem filed_insert (m : Std.ExtTreeMap Uuid β) (id : Uuid) (b : β) :
    Filed m id b (m.insert id b) where
  found := Std.ExtTreeMap.getElem?_insert_self
  others other hne := by
    rw [Std.ExtTreeMap.getElem?_insert, if_neg]
    exact fun heq => hne (Std.LawfulEqCmp.eq_of_compare heq).symm
  size := Std.ExtTreeMap.size_insert

/-- Filing an entry adds to the others exactly if nothing was filed there before. -/
theorem Filed.extends_iff (h : Filed m id b m') : Extends m m' ↔ id ∉ m := by
  constructor
  · intro hext hmem
    have hsize := h.size.symm.trans hext.size
    rw [if_pos hmem] at hsize
    omega
  · intro hfree
    refine ⟨h.size.trans (if_neg hfree), fun other e he => ?_⟩
    have hne : other ≠ id := by
      rintro rfl
      rw [Std.ExtTreeMap.getElem?_eq_none hfree] at he
      cases he
    rw [h.others other hne, he]

/-- Insertions of accounts and of roles are refused for what the check before them finds, without a
change, or put down the new entry alone. No other entry is lost if its identifier is free; if it is
taken, the entry that has it is replaced. -/
theorem insertions_extend_iff (s : Store) :
    (∀ (a : NewAccount) (now : Instant),
      if s.accountExists a.phone a.email then
        s.insertAccount a now = (.error (.conflict "user already exists"), s)
      else ∃ accounts, s.insertAccount a now = (.ok (), { s with accounts := accounts }) ∧
        Filed s.accounts a.id (a.record now) accounts ∧
        (Extends s.accounts accounts ↔ a.id ∉ s.accounts)) ∧
    ∀ r : Role,
      if s.roleNameTaken r then s.insertRole r = (.error (roleConflict r), s)
      else ∃ roles, s.insertRole r = (.ok (), { s with roles := roles }) ∧
        Filed s.roles r.id r roles ∧ (Extends s.roles roles ↔ r.id ∉ s.roles) := by
  constructor
  · intro a now
    have hfiled := filed_insert s.accounts a.id (a.record now)
    split
    next htaken => exact if_pos htaken
    next hfree => exact ⟨_, if_neg hfree, hfiled, hfiled.extends_iff⟩
  · intro r
    have hfiled := filed_insert s.roles r.id r
    split
    next htaken => exact if_pos htaken
    next hfree => exact ⟨_, if_neg hfree, hfiled, hfiled.extends_iff⟩

/-- Inserting under an identifier that is taken loses the account that has it, and likewise the role:
the answer is no conflict, and there are no more entries than before. -/
theorem insertion_replaces_entry :
    let t : Instant := .ofSeconds 0 0
    let s := (Store.empty.insertAccount ⟨⟨1⟩, "+15550001", none, "hash", none, none⟩ t).2
    let a : NewAccount := ⟨⟨1⟩, "+15550002", none, "hash", none, none⟩
    let q := (Store.empty.insertRole ⟨⟨1⟩, .admin, "Admin", "", .empty⟩).2
    let r : Role := ⟨⟨1⟩, .manager, "Manager", "", .empty⟩
    s.accountExists "+15550001" none = true ∧
      (∃ s', s.insertAccount a t = (.ok (), s') ∧ s'.accountExists "+15550001" none = false ∧
        ¬ Extends s.accounts s'.accounts) ∧
      ∃ q', q.insertRole r = (.ok (), q') ∧ ¬ Extends q.roles q'.roles := by
  intro t s a q r
  have haccount : s.accountExists a.phone a.email = false := by decide +kernel
  have hrole : q.roleNameTaken r = false := by decide +kernel
  refine ⟨by decide +kernel, ?_, ?_⟩
  · have hsize : (s.accounts.insert a.id (a.record t)).size ≠ s.accounts.size + 1 := by
      decide +kernel
    refine ⟨_, if_neg (by rw [haccount]; nofun), by decide +kernel, fun h => hsize h.size⟩
  · have hsize : (q.roles.insert r.id r).size ≠ q.roles.size + 1 := by decide +kernel
    exact ⟨_, if_neg (by rw [hrole]; nofun), fun h => hsize h.size⟩

end Turnstile.Store
