import Mathlib.Data.Finset.Lattice.Fold
import Turnstile.Proofs.Compactness

/-! Merging rights is a join. Section by section the sets are united, so neither order nor repetition
matters, and a user who is assigned roles ends up with the join of what the user had and what the
roles give. -/
namespace Turnstile

namespace PermissionSet

theorem union_comm (s t : PermissionSet) : s.union t = t.union s :=
  ext_contains fun p => by simp [Bool.or_comm]

theorem union_assoc (s t u : PermissionSet) : (s.union t).union u = s.union (t.union u) :=
  ext_contains fun p => by simp [Bool.or_assoc]

theorem union_self (s : PermissionSet) : s.union s = s := ext_contains fun p => by simp

theorem empty_union (s : PermissionSet) : empty.union s = s := ext_contains fun p => by simp

instance : Std.Commutative union := ⟨union_comm⟩

instance : Std.Associative union := ⟨union_assoc⟩

instance : Std.IdempotentOp union := ⟨union_self⟩

end PermissionSet

namespace Rights

variable (a b c r : Rights) (s : Section) (p : Permission)

theorem get?_insert (ps : PermissionSet) (t : Section) :
    (r.insert s ps).get? t =
      if t = s then (r.get? s).merge .union (some ps) else r.get? t := by
  rw [insert, get?_put]
  cases r.get? s with
  | none => rw [Option.getD_none, PermissionSet.empty_union, Option.merge_none_left]
  | some held => rw [Option.getD_some, Option.merge_some_some]

/-- Entries inserted one after another: each section is united with what it occurs with. -/
theorem get?_foldl_insert {l : List Section} (hl : l.Nodup) :
    ((l.filterMap fun s => (b.get? s).map fun ps => (s, ps)).foldl (fun r e => r.insert e.1 e.2)
      a).get? s = if s ∈ l then (a.get? s).merge .union (b.get? s) else a.get? s := by
  induction l generalizing a with
  | nil => simp
  | cons t l ih =>
    obtain ⟨hnotMem, hl⟩ := List.nodup_cons.mp hl
    cases ht : b.get? t with
    | none =>
      rw [List.filterMap_cons_none (by rw [ht]; rfl), ih a hl]
      by_cases hs : s = t
      · simp [hs, hnotMem, ht]
      · simp [hs]
    | some ps =>
      rw [List.filterMap_cons_some (by rw [ht]; rfl), List.foldl_cons, ih _ hl, get?_insert]
      by_cases hs : s = t
      · simp [hs, hnotMem, ht]
      · simp [hs]

/-- A section of the merge has what it has on either side. -/
@[simp] theorem get?_merge : (a.merge b).get? s = (a.get? s).merge .union (b.get? s) := by
  have h := get?_foldl_insert a b s Section.nodup_all
  rw [if_pos s.mem_all] at h
  exact h

theorem merge_comm : a.merge b = b.merge a := by
  refine ext_get? fun s => ?_
  rw [get?_merge, get?_merge]
  exact Std.Commutative.comm _ _

theorem merge_assoc : (a.merge b).merge c = a.merge (b.merge c) := by
  refine ext_get? fun s => ?_
  simp only [get?_merge]
  exact Std.Associative.assoc _ _ _

theorem merge_self : a.merge a = a := by
  refine ext_get? fun s => ?_
  rw [get?_merge]
  exact Std.IdempotentOp.idempotent _

theorem empty_merge : empty.merge a = a :=
  ext_get? fun s => by rw [get?_merge, get?_empty, Option.merge_none_left]

theorem contains_merge : (a.merge b).contains s p = (a.contains s p || b.contains s p) := by
  rw [contains, contains, contains, get?_merge]
  cases a.get? s <;> cases b.get? s <;> simp

/-! The order that goes with it: less is what adds nothing. -/

instance : Max Rights := ⟨merge⟩

instance : SemilatticeSup Rights := .mk' merge_comm merge_assoc merge_self

instance : OrderBot Rights where
  bot := empty
  bot_le a := sup_eq_right.mp (empty_merge a)

theorem get?_sup_ne_none : (a ⊔ b).get? s ≠ none ↔ a.get? s ≠ none ∨ b.get? s ≠ none := by
  rw [show a ⊔ b = a.merge b from rfl, get?_merge, ne_eq, Option.merge_eq_none_iff]
  tauto

theorem contains_sup :
    (a ⊔ b).contains s p = true ↔ a.contains s p = true ∨ b.contains s p = true := by
  rw [show a ⊔ b = a.merge b from rfl, contains_merge, Bool.or_eq_true]

/-- What a join has exactly when one of two sides has it, the join of many has exactly when one of
them has it. -/
theorem finset_sup_iff {ι : Type} {P : Rights → Prop} (hbot : ¬ P ⊥)
    (hsup : ∀ a b, P (a ⊔ b) ↔ P a ∨ P b) (is : Finset ι) (f : ι → Rights) :
    P (is.sup f) ↔ ∃ i ∈ is, P (f i) := by
  induction is using Finset.cons_induction with
  | empty => simp [hbot]
  | cons i is hi ih => rw [Finset.sup_cons, hsup, ih]; simp

end Rights

namespace Store

variable (s : Store) (user : Uuid)

theorem accounts_ext {a b : Std.ExtTreeMap Uuid AccountRecord}
    (h : ∀ id : Uuid, a[id]? = b[id]?) :
    ({ s with accounts := a } : Store) = { s with accounts := b } := by
  rw [Std.ExtTreeMap.ext_getElem? h]

/-- Only what a change makes of the record that is there matters. -/
theorem modifyAccount_congr {f g : AccountRecord → AccountRecord}
    (h : ∀ r, s.accounts[user]? = some r → f r = g r) :
    s.modifyAccount user f = s.modifyAccount user g := by
  apply s.accounts_ext
  intro id
  rw [Std.ExtTreeMap.getElem?_modify, Std.ExtTreeMap.getElem?_modify]
  cases hr : s.accounts[user]? with
  | none => rfl
  | some r => rw [Option.map_some, Option.map_some, h r hr]

theorem modifyAccount_id : s.modifyAccount user id = s := by
  apply s.accounts_ext
  intro other
  rw [Std.ExtTreeMap.getElem?_modify, Option.map_id_fun]
  split
  next he => rw [Std.LawfulEqCmp.eq_of_compare he]; rfl
  next => rfl

theorem modifyAccount_modifyAccount (f g : AccountRecord → AccountRecord) :
    (s.modifyAccount user f).modifyAccount user g = s.modifyAccount user (g ∘ f) := by
  apply s.accounts_ext
  intro id
  change ((s.accounts.modify user f).modify user g)[id]? = _
  simp only [Std.ExtTreeMap.getElem?_modify, Std.ReflCmp.compare_self, if_true]
  split
  next => rw [Option.map_map]
  next => rfl

/-- What a role gives to whoever is assigned it; a role that does not exist gives nothing. -/
def roleRights (role : Uuid) : Rights := (s.role? role).elim ⊥ Role.rights

/-- The user's rights joined with others. -/
def joinRights (r : Rights) : Store :=
  s.modifyAccount user fun a => { a with rights := a.rights ⊔ r }

theorem joinRights_bot : s.joinRights user ⊥ = s := by
  have hid : (fun a : AccountRecord => { a with rights := a.rights ⊔ ⊥ }) = id := by
    funext a
    rw [sup_bot_eq]
    rfl
  rw [joinRights, hid, modifyAccount_id]

theorem joinRights_joinRights (r t : Rights) :
    (s.joinRights user r).joinRights user t = s.joinRights user (r ⊔ t) := by
  simp only [joinRights, modifyAccount_modifyAccount, Function.comp_def, sup_assoc]

theorem rights?_joinRights (r : Rights) :
    (s.joinRights user r).rights? user = (s.rights? user).map (· ⊔ r) := by
  rw [rights?, joinRights, modifyAccount_get, if_pos rfl, rights?, Option.map_map, Option.map_map]
  rfl

/-- What a user has with some roles, where having is decided side by side. -/
theorem sup_roleRights_iff {P : Rights → Prop} (hbot : ¬ P ⊥)
    (hsup : ∀ a b, P (a ⊔ b) ↔ P a ∨ P b) (own : Rights) (roles : List (Circumstances × Uuid)) :
    P (own ⊔ (roles.map Prod.snd).toFinset.sup s.roleRights) ↔
      P own ∨ ∃ x ∈ roles, ∃ r, s.role? x.2 = some r ∧ P r.rights := by
  have hrole (role : Uuid) : P (s.roleRights role) ↔ ∃ r, s.role? role = some r ∧ P r.rights := by
    cases h : s.role? role <;> simp [roleRights, h, hbot]
  rw [hsup, Rights.finset_sup_iff hbot hsup]
  simp only [List.mem_toFinset, List.mem_map, exists_exists_and_eq_and, hrole]

end Store

/-- Roles assigned to a user one after another, each time merged with what the user has. -/
def Event.assignments (user : Uuid) (roles : List (Circumstances × Uuid)) : List Event :=
  roles.map fun x => ⟨x.1, .assign user x.2 true⟩

namespace Event

variable (c : Settings) (now : Circumstances) (s : Store) (user role : Uuid)

theorem answer_assign_merge {own : Rights} {r : Role} (hown : s.rights? user = some own)
    (hrole : s.role? role = some r) :
    Event.answer c ⟨now, .assign user role true⟩ (.ready s) =
      (.ok (.rights (own ⊔ r.rights)), .ready (s.joinRights user r.rights)) := by
  have hanswer : Event.answer c ⟨now, .assign user role true⟩ (.ready s) = _ :=
    Action.perform_map ..
  have hstore : s.joinRights user r.rights =
      s.modifyAccount user fun a => { a with rights := own.merge r.rights } := by
    refine s.modifyAccount_congr user fun a ha => ?_
    rw [Store.rights?, ha] at hown
    obtain rfl := Option.some.inj hown
    rfl
  rw [hanswer, Grants.perform_assign_ready, hrole, hstore]
  simp only [Store.updateRights, hown]
  rfl

/-- Where there is no such role, or no such user, nothing is joined. -/
theorem assign_merge_leaves :
    (Event.answer c ⟨now, .assign user role true⟩ (.ready s)).2 =
      .ready (s.joinRights user (s.roleRights role)) := by
  have hanswer : Event.answer c ⟨now, .assign user role true⟩ (.ready s) = _ :=
    Action.perform_map ..
  cases hrole : s.role? role with
  | none =>
    rw [hanswer, Grants.perform_assign_ready, Store.roleRights, hrole, Option.elim_none,
      Store.joinRights_bot]
  | some r =>
    cases hown : s.rights? user with
    | none =>
      have hstore : s.joinRights user (s.roleRights role) = s := by
        have hnone := Option.map_eq_none_iff.mp hown
        rw [Store.joinRights, s.modifyAccount_congr user (g := id) (by simp [hnone]),
          Store.modifyAccount_id]
      rw [hanswer, Grants.perform_assign_ready, hrole, hstore]
      simp only [Store.updateRights, hown]
    | some own => rw [answer_assign_merge c now s user role hown hrole, Store.roleRights, hrole]; rfl

end Event

namespace Database

variable (c : Settings) (s : Store) (user : Uuid) (roles : List (Circumstances × Uuid))

/-- One role after another is all of them at once. -/
theorem after_assignments :
    (ready s).after c (Event.assignments user roles) =
      .ready (s.joinRights user ((roles.map Prod.snd).toFinset.sup s.roleRights)) := by
  induction roles generalizing s with
  | nil =>
    rw [List.map_nil, List.toFinset_nil, Finset.sup_empty, Store.joinRights_bot]
    rfl
  | cons x roles ih =>
    have hstep : (ready s).after c (Event.assignments user (x :: roles)) =
        (ready (s.joinRights user (s.roleRights x.2))).after c (Event.assignments user roles) :=
      congrArg (after c · _) (Event.assign_merge_leaves c x.1 s user x.2)
    have hroles : (s.joinRights user (s.roleRights x.2)).roleRights = s.roleRights := rfl
    rw [hstep, ih, hroles, Store.joinRights_joinRights, List.map_cons, List.toFinset_cons,
      Finset.sup_insert]

/-- A user who exists can be assigned every role that does. -/
theorem assignments_succeed (huser : user ∈ s.accounts)
    (hroles : ∀ x ∈ roles, x.2 ∈ s.roles) :
    ∀ m ∈ (ready s).moments c (Event.assignments user roles), ∃ r, m.answer = .ok (.rights r) := by
  induction roles generalizing s with
  | nil => exact fun m hm => absurd hm List.not_mem_nil
  | cons x roles ih =>
    obtain ⟨hrole, hrest⟩ := List.forall_mem_cons.mp hroles
    obtain ⟨a, ha⟩ := Store.exists_record huser
    have hown : s.rights? user = some a.rights := by rw [Store.rights?, ha]; rfl
    obtain ⟨r, hr⟩ : ∃ r, s.role? x.2 = some r :=
      Option.isSome_iff_exists.mp (Std.ExtTreeMap.isSome_getElem?_iff_mem.mpr hrole)
    have hanswer := Event.answer_assign_merge c x.1 s user x.2 hown hr
    have hstays : user ∈ (s.joinRights user r.rights).accounts := Std.ExtTreeMap.mem_modify.mpr huser
    intro m hm
    rcases List.mem_cons.mp hm with rfl | hm
    · exact ⟨_, congrArg Prod.fst hanswer⟩
    · rw [hanswer] at hm
      exact ih _ hstays hrest m hm

/-- Merging is associative, commutative and idempotent with no rights as its identity, and a merge
holds exactly the permissions that either side holds. So, from whatever store, a user who is assigned
any roles in a row, each merged, ends up with the sections and permissions of the rights before and
of the rights of those roles, and no others. The roles stay as they were, and the same roles in
another order, or some of them more than once, leave the same store. -/
theorem assigned_roles_join :
    (∀ a b c : Rights, (a.merge b).merge c = a.merge (b.merge c)) ∧
      (∀ a b : Rights, a.merge b = b.merge a) ∧ (∀ a : Rights, a.merge a = a) ∧
      (∀ a : Rights, a.merge .empty = a ∧ Rights.empty.merge a = a) ∧
      (∀ (a b : Rights) s p, (a.merge b).contains s p = (a.contains s p || b.contains s p)) ∧
      ∀ (c : Settings) (s : Store) (user : Uuid) (own : Rights)
        (roles : List (Circumstances × Uuid)),
        s.rights? user = some own → (∀ x ∈ roles, x.2 ∈ s.roles) →
        (∀ m ∈ (ready s).moments c (Event.assignments user roles),
          ∃ r, m.answer = .ok (.rights r)) ∧
        ∃ s' rights, (ready s).after c (Event.assignments user roles) = .ready s' ∧
          s'.rights? user = some rights ∧ s'.roles = s.roles ∧
          (∀ sec, rights.get? sec ≠ none ↔ own.get? sec ≠ none ∨
            ∃ x ∈ roles, ∃ r, s.role? x.2 = some r ∧ r.rights.get? sec ≠ none) ∧
          (∀ sec p, rights.contains sec p = true ↔ own.contains sec p = true ∨
            ∃ x ∈ roles, ∃ r, s.role? x.2 = some r ∧ r.rights.contains sec p = true) ∧
          ∀ others : List (Circumstances × Uuid),
            (∀ role, role ∈ others.map Prod.snd ↔ role ∈ roles.map Prod.snd) →
            (ready s).after c (Event.assignments user others) = .ready s' := by
  refine ⟨Rights.merge_assoc, Rights.merge_comm, Rights.merge_self,
    fun a => ⟨(Rights.merge_comm a .empty).trans a.empty_merge, a.empty_merge⟩,
    Rights.contains_merge, fun c s user own roles hown hroles => ?_⟩
  have hsections (sec : Section) := s.sup_roleRights_iff (P := (·.get? sec ≠ none))
    (by simp [show (⊥ : Rights) = .empty from rfl]) (Rights.get?_sup_ne_none · · sec) own roles
  have hpermissions (sec : Section) (p : Permission) :=
    s.sup_roleRights_iff (P := (·.contains sec p = true))
      (by simp [show (⊥ : Rights) = .empty from rfl, Rights.contains])
      (Rights.contains_sup · · sec p) own roles
  refine ⟨assignments_succeed c s user roles (Store.mem_of_rights? hown) hroles, _, _,
    after_assignments c s user roles, ?_, rfl, hsections, hpermissions, fun others hothers => ?_⟩
  · rw [Store.rights?_joinRights, hown]
    rfl
  · have hset : (others.map Prod.snd).toFinset = (roles.map Prod.snd).toFinset := by
      ext role
      rw [List.mem_toFinset, List.mem_toFinset, hothers]
    rw [after_assignments, hset]

/-- Of two roles one is assigned twice, or each once in the other order. -/
theorem two_roles_joined :
    let c := Settings.ofSecret "secret"
    let now (id : Uuid) : Circumstances := ⟨⟨.ofSeconds 0 0, .ofSeconds 0 0⟩, ⟨id, [], []⟩⟩
    let events : List Event :=
      [⟨now ⟨1⟩, .register ⟨"+15551234567", none, "Passw0rd!", none, none⟩⟩,
        ⟨now ⟨7⟩, .addRole ⟨"OPERATOR", "Operator", "", .ofList [("ORDERS", ["READ"])]⟩⟩,
        ⟨now ⟨8⟩, .addRole ⟨"MERCHANT", "Merchant", "",
          .ofList [("ORDERS", ["CREATE"]), ("CHAR", ["READ"])]⟩⟩,
        ⟨now ⟨1⟩, .grant ⟨1⟩ (.ofList [("HISTORY", ["DELETE"])])⟩]
    let assign (ids : List Nat) : List (Circumstances × Uuid) := ids.map fun n => (now ⟨n⟩, ⟨n⟩)
    ∃ s s', (ready .empty).after c events = .ready s ∧
      (ready s).after c (Event.assignments ⟨1⟩ (assign [7, 8, 7])) = .ready s' ∧
      (ready s).after c (Event.assignments ⟨1⟩ (assign [8, 7])) = .ready s' ∧
      s'.roles = s.roles ∧
      s'.rights? ⟨1⟩ = some (((Rights.empty.put .history (.ofList [.delete])).put .orders
        (.ofList [.read, .create])).put .char (.ofList [.read])) := by
  intro c now events assign
  obtain ⟨s, hs, -⟩ := compactRights_after c events
  have hown : ((ready .empty).after c events).store?.bind (·.rights? ⟨1⟩) =
      some (Rights.empty.put .history (.ofList [.delete])) := by decide +kernel
  have hroles : ∀ x ∈ assign [7, 8, 7],
      ((ready .empty).after c events).store?.any (·.roles.contains x.2) = true := by decide +kernel
  have hrights : (((ready .empty).after c events).after c
      (Event.assignments ⟨1⟩ (assign [7, 8, 7]))).store?.bind (·.rights? ⟨1⟩) =
        some (((Rights.empty.put .history (.ofList [.delete])).put .orders
          (.ofList [.read, .create])).put .char (.ofList [.read])) := by decide +kernel
  rw [hs] at hown hroles hrights
  obtain ⟨-, -, -, -, -, hjoin⟩ := assigned_roles_join
  obtain ⟨-, s', _, hs', -, hkept, -, -, hothers⟩ :=
    hjoin c s ⟨1⟩ _ (assign [7, 8, 7]) hown hroles
  rw [hs'] at hrights
  exact ⟨s, s', hs, hs', hothers (assign [8, 7]) (by simp [assign]), hkept, hrights⟩

end Database

end Turnstile
