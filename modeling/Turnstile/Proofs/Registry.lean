import Mathlib.Data.List.Perm.Subperm
import Turnstile.Proofs.NormalForms

/-! The registry of roles. Over every run each role is filed under its own identifier and no two have
one name, so there are as many roles at most as there are names, their list is the same in whatever
order it is gathered, and every role can be asked for again as it is. -/
namespace Turnstile

theorem Part.hidden_roles {p : Part} (h : p ≠ .roles) : p.Hidden Store.roles := by
  intro s s' hw
  cases hw with
  | roles rs => exact absurd rfl h
  | _ => rfl

theorem RoleName.text_injective {n m : RoleName} (h : n.text = m.text) : n = m := by
  have hparse := congrArg RoleName.parse h
  simpa using hparse

namespace Store

/-- The roles among the entries of a map, in the byte order of their names. -/
def rolesIn (entries : List (Uuid × Role)) : List Role :=
  (entries.map Prod.snd).mergeSort fun a b => decide (a.name.text ≤ b.name.text)

/-- Roles are filed under their own identifiers, no two have one name, and all are as their check has
left them. -/
structure Registry (s : Store) : Prop where
  filed : ∀ (id : Uuid) r, s.roles[id]? = some r → r.id = id
  named : ∀ (i j : Uuid) r q, s.roles[i]? = some r → s.roles[j]? = some q → r.name = q.name → i = j
  normal : ∀ (id : Uuid) r, s.roles[id]? = some r → r.Normal

theorem roleNameTaken_eq_true_iff {s : Store} {r : Role} : s.roleNameTaken r = true ↔
    ∃ (id : Uuid) (q : Role), s.roles[id]? = some q ∧ q.name = r.name ∧ q.id ≠ r.id := by
  simp only [roleNameTaken, List.any_eq_true, decide_eq_true_eq, Prod.exists,
    Std.ExtTreeMap.mem_toList_iff_getElem?_eq_some]

namespace Registry

variable {s s' : Store} {r : Role}

theorem empty : Registry .empty where
  filed := by simp [Store.empty]
  named := by simp [Store.empty]
  normal := by simp [Store.empty]

/-- Only the roles of a store matter. -/
theorem of_roles_eq (h : s.Registry) (hroles : s'.roles = s.roles) : s'.Registry where
  filed := hroles ▸ h.filed
  named := hroles ▸ h.named
  normal := hroles ▸ h.normal

/-- A role is put down, or put in the place of the one with its identifier. -/
theorem insert (h : s.Registry) (hr : r.Normal) (hfree : s.roleNameTaken r = false) :
    Registry { s with roles := s.roles.insert r.id r } := by
  have hget {id : Uuid} {q : Role} (hq : (s.roles.insert r.id r)[id]? = some q) :
      (id = r.id ∧ q = r) ∨ (id ≠ r.id ∧ s.roles[id]? = some q) := by
    rw [Std.ExtTreeMap.getElem?_insert] at hq
    split at hq
    next heq => exact .inl ⟨(Std.LawfulEqCmp.eq_of_compare heq).symm, (Option.some.inj hq).symm⟩
    next hne => exact .inr ⟨fun heq => hne (heq ▸ Std.ReflCmp.compare_self), hq⟩
  have hother {id : Uuid} {q : Role} (hne : id ≠ r.id) (hq : s.roles[id]? = some q) :
      q.name ≠ r.name := by
    intro hname
    have htaken : s.roleNameTaken r = true :=
      roleNameTaken_eq_true_iff.mpr ⟨id, q, hq, hname, h.filed id q hq ▸ hne⟩
    rw [hfree] at htaken
    cases htaken
  refine ⟨fun id q hq => ?_, fun i j p q hp hq hname => ?_, fun id q hq => ?_⟩
  · rcases hget hq with ⟨rfl, rfl⟩ | ⟨-, hq⟩
    · rfl
    · exact h.filed id q hq
  · rcases hget hp with ⟨hi, rfl⟩ | ⟨hi, hp'⟩
    · rcases hget hq with ⟨hj, -⟩ | ⟨hj, hq'⟩
      · rw [hi, hj]
      · exact absurd hname.symm (hother hj hq')
    · rcases hget hq with ⟨-, rfl⟩ | ⟨-, hq'⟩
      · exact absurd hname (hother hi hp')
      · exact h.named i j p q hp' hq' hname
  · rcases hget hq with ⟨-, rfl⟩ | ⟨-, hq⟩
    · exact hr
    · exact h.normal id q hq

theorem erase (h : s.Registry) (id : Uuid) : Registry { s with roles := s.roles.erase id } := by
  have hget {i : Uuid} {q : Role} (hq : (s.roles.erase id)[i]? = some q) :
      s.roles[i]? = some q := by
    rw [Std.ExtTreeMap.getElem?_erase] at hq
    split at hq
    next => cases hq
    next => exact hq
  exact ⟨fun i q hq => h.filed i q (hget hq),
    fun i j p q hp hq => h.named i j p q (hget hp) (hget hq), fun i q hq => h.normal i q (hget hq)⟩

theorem insertRole (h : s.Registry) (hr : r.Normal) : (s.insertRole r).2.Registry := by
  unfold Store.insertRole
  split
  next => exact h
  next hfree => exact h.insert hr (Bool.not_eq_true _ ▸ hfree)

theorem updateRole (h : s.Registry) (hr : r.Normal) : (s.updateRole r).2.Registry := by
  unfold Store.updateRole
  split
  next =>
    split
    next => exact h
    next hfree => exact h.insert hr (Bool.not_eq_true _ ▸ hfree)
  next => exact h

/-- The step: no event spoils the registry, and only three operations write to it. -/
theorem event {c : Settings} {e : Event} (h : s.Registry)
    (he : (e.answer c (.ready s)).2 = .ready s') : s'.Registry := by
  obtain ⟨now, o⟩ := e
  have hkept (ho : ∀ p ∈ o.parts, p ≠ .roles) : s'.Registry :=
    h.of_roles_eq (Event.view_eq he fun p hp => Part.hidden_roles (ho p hp))
  cases o with
  | addRole q =>
    have hperform : Event.answer c ⟨now, .addRole q⟩ (.ready s) = _ := Action.perform_map ..
    rw [hperform, Roles.perform_add_ready] at he
    split at he
    next =>
      cases he
      exact h
    next r hr =>
      cases he
      exact h.insertRole (RoleRequest.normal_of_validate hr)
  | editRole id q =>
    have hperform : Event.answer c ⟨now, .editRole id q⟩ (.ready s) = _ := Action.perform_map ..
    rw [hperform, Roles.perform_edit_ready] at he
    split at he
    next =>
      cases he
      exact h
    next r hr =>
      cases he
      exact h.updateRole (RoleRequest.normal_of_validate hr)
  | deleteRole id =>
    have hperform : Event.answer c ⟨now, .deleteRole id⟩ (.ready s) = _ := Action.perform_map ..
    rw [hperform, Roles.perform_delete_ready] at he
    cases he
    exact h.erase id
  | _ => exact hkept (by simp [Operation.parts])

/-- No name occurs twice among the entries, in whatever order they are. -/
theorem pairwise_name (h : s.Registry) {entries : List (Uuid × Role)}
    (hp : entries.Perm s.roles.toList) : entries.Pairwise fun a b => a.2.name ≠ b.2.name := by
  have hsymm {a b : Uuid × Role} (hne : a.2.name ≠ b.2.name) : b.2.name ≠ a.2.name := hne.symm
  rw [hp.pairwise_iff hsymm]
  refine Std.ExtTreeMap.distinct_keys_toList.imp_of_mem fun {a b} ha hb hne hname => hne ?_
  have ha := Std.ExtTreeMap.mem_toList_iff_getElem?_eq_some.mp ha
  have hb := Std.ExtTreeMap.mem_toList_iff_getElem?_eq_some.mp hb
  rw [h.named a.1 b.1 a.2 b.2 ha hb hname]
  exact Std.ReflCmp.compare_self

theorem size_le (h : s.Registry) : s.roles.size ≤ 5 := by
  have hnames : (s.roles.toList.map (·.2.name)).Nodup :=
    List.pairwise_map.mpr (h.pairwise_name (.refl _))
  have hle := (hnames.subperm fun n _ => RoleName.mem_all n).length_le
  rwa [List.length_map, Std.ExtTreeMap.length_toList] at hle

theorem rolesIn_pairwise (h : s.Registry) {entries : List (Uuid × Role)}
    (hp : entries.Perm s.roles.toList) :
    (rolesIn entries).Pairwise fun a b => a.name.text < b.name.text := by
  have hperm : (rolesIn entries).Perm (entries.map Prod.snd) := List.mergeSort_perm _ _
  have hsorted : (rolesIn entries).Pairwise fun a b => a.name.text ≤ b.name.text := by
    refine (List.pairwise_mergeSort ?_ ?_ _).imp of_decide_eq_true
    · intro a b d hab hbd
      exact decide_eq_true (String.le_trans (of_decide_eq_true hab) (of_decide_eq_true hbd))
    · intro a b
      simpa using String.le_total a.name.text b.name.text
  have hsymm {a b : Role} (hne : a.name ≠ b.name) : b.name ≠ a.name := hne.symm
  have hdistinct : (rolesIn entries).Pairwise fun a b => a.name ≠ b.name := by
    rw [hperm.pairwise_iff hsymm]
    exact List.pairwise_map.mpr (h.pairwise_name hp)
  refine (hsorted.and hdistinct).imp fun {a b} ⟨hle, hne⟩ => ?_
  apply String.not_le.mp
  intro hge
  exact hne (RoleName.text_injective (String.le_antisymm hle hge))

/-- The list does not depend on the order in which the entries come. -/
theorem rolesIn_eq (h : s.Registry) {entries : List (Uuid × Role)}
    (hp : entries.Perm s.roles.toList) : rolesIn entries = s.roleList := by
  have hperm : (rolesIn entries).Perm s.roleList :=
    (List.mergeSort_perm _ _).trans ((hp.map Prod.snd).trans (List.mergeSort_perm _ _).symm)
  have hordered {a b : Role} (hlt : a.name.text < b.name.text) : ¬ b.name.text < a.name.text :=
    String.lt_asymm hlt
  exact hperm.eq_of_pairwise (fun a b _ _ hab hba => absurd hba (hordered hab))
    (h.rolesIn_pairwise hp) (h.rolesIn_pairwise (.refl _))

theorem mem_roleList (h : s.Registry) : r ∈ s.roleList ↔ s.roles[r.id]? = some r := by
  rw [roleList, List.mem_mergeSort, List.mem_map]
  constructor
  · rintro ⟨⟨id, r'⟩, hmem, rfl⟩
    have hr := Std.ExtTreeMap.mem_toList_iff_getElem?_eq_some.mp hmem
    rwa [h.filed id r' hr]
  · intro hr
    exact ⟨(r.id, r), Std.ExtTreeMap.mem_toList_iff_getElem?_eq_some.mpr hr, rfl⟩

/-- To put a role down again in its own place is no change. -/
theorem updateRole_self (h : s.Registry) {id : Uuid} (hr : s.roles[id]? = some r) :
    s.updateRole r = (.ok true, s) := by
  have hid := h.filed id r hr
  have hmem : r.id ∈ s.roles := by
    rw [hid, ← Std.ExtTreeMap.isSome_getElem?_iff_mem, hr]
    rfl
  have hfree : s.roleNameTaken r = false := by
    rw [← Bool.not_eq_true, roleNameTaken_eq_true_iff]
    rintro ⟨i, q, hq, hname, hne⟩
    rw [h.filed i q hq, hid] at hne
    exact hne (h.named i id q r hq hr hname)
  have hroles : s.roles.insert r.id r = s.roles := by
    ext i : 1
    rw [Std.ExtTreeMap.getElem?_insert]
    split
    next heq => rw [← Std.LawfulEqCmp.eq_of_compare heq, hid, hr]
    next => rfl
  simp only [Store.updateRole, hmem, hfree, hroles, if_true, Bool.false_eq_true, if_false]

/-! Operations on a registry. -/

variable {settings : Settings} {now : Circumstances} {q : RoleRequest} {id other : Uuid}
  {holder : Role}

/-- A name that another role has is taken. -/
theorem nameTaken (h : s.Registry) (hother : s.roles[other]? = some holder)
    (hname : holder.name = r.name) (hne : other ≠ r.id) : s.roleNameTaken r = true :=
  roleNameTaken_eq_true_iff.mpr ⟨other, holder, hother, hname, by rwa [h.filed other holder hother]⟩

theorem answer_addRole_taken (h : s.Registry) (hq : q.validate now.entropy.id = .ok r)
    (hother : s.roles[other]? = some holder) (hname : holder.name = r.name)
    (hne : other ≠ now.entropy.id) :
    Event.answer settings ⟨now, .addRole q⟩ (.ready s) = (.error (roleConflict r), .ready s) := by
  have htaken := h.nameTaken hother hname ((RoleRequest.of_validate hq).1 ▸ hne)
  have hperform : Event.answer settings ⟨now, .addRole q⟩ (.ready s) = _ := Action.perform_map ..
  rw [hperform, Roles.perform_add_ready, hq]
  simp only [Store.insertRole, htaken, if_true]
  rfl

theorem answer_editRole_taken (h : s.Registry) (hq : q.validate id = .ok r) (hmem : id ∈ s.roles)
    (hother : s.roles[other]? = some holder) (hname : holder.name = r.name) (hne : other ≠ id) :
    Event.answer settings ⟨now, .editRole id q⟩ (.ready s) =
      (.error (roleConflict r), .ready s) := by
  obtain rfl := (RoleRequest.of_validate hq).1
  have htaken := h.nameTaken hother hname hne
  have hperform : Event.answer settings ⟨now, .editRole r.id q⟩ (.ready s) = _ :=
    Action.perform_map ..
  rw [hperform, Roles.perform_edit_ready, hq]
  simp only [Store.updateRole, hmem, htaken, if_true]
  rfl

/-- To ask for a role as it is changes nothing. -/
theorem answer_editRole_self (h : s.Registry) (hr : s.roles[id]? = some r) :
    Event.answer settings ⟨now, .editRole id r.request⟩ (.ready s) = (.ok (.role r), .ready s) := by
  have hvalid : r.request.validate id = .ok r :=
    h.filed id r hr ▸ (h.normal id r hr).validate_request
  have hperform : Event.answer settings ⟨now, .editRole id r.request⟩ (.ready s) = _ :=
    Action.perform_map ..
  rw [hperform, Roles.perform_edit_ready, hvalid]
  simp only [h.updateRole_self hr]
  rfl

end Registry

end Store

namespace Database

open Store

theorem registry_after (c : Settings) (events : List Event) :
    ∃ s, (ready .empty).after c events = .ready s ∧ s.Registry :=
  after_induction (Q := fun _ => True) (P := fun _ => Registry) (fun _ => trivial) .empty
    (fun _ _ h he => h.event he) trivial

/-- After every run, whatever identifiers it gives away: each role is filed under its own identifier,
with a localized name that is not blank, and no white space around it or the notes; no two have the
same name, so there are five at most; their list has each once, in strictly ascending order of names,
in whatever order the entries are gathered; a valid role whose name another one holds is a conflict;
and asking for a role as it is changes nothing. -/
theorem roles_registered (c : Settings) (events : List Event) :
    ∃ s, (ready .empty).after c events = .ready s ∧
      (∀ (id : Uuid) r, s.roles[id]? = some r → r.id = id ∧
        (∃ ch ∈ r.localizedName.toList, Text.isBlank ch = false) ∧ Text.Neat r.localizedName ∧
        Text.Neat r.notes) ∧
      (∀ (i j : Uuid) r q, s.roles[i]? = some r → s.roles[j]? = some q → r.name = q.name → i = j) ∧
      s.roles.size ≤ 5 ∧
      (∃ rs, (∀ (settings : Settings) (now : Circumstances),
          Event.answer settings ⟨now, .getRoles⟩ (.ready s) = (.ok (.roles rs), .ready s)) ∧
        rs.Pairwise (fun a b => a.name.text < b.name.text) ∧
        (∀ r, r ∈ rs ↔ s.roles[r.id]? = some r) ∧
        ∀ entries, entries.Perm s.roles.toList → rolesIn entries = rs) ∧
      ∀ (settings : Settings) (now : Circumstances),
        (∀ (q : RoleRequest) (r other : Role) (i : Uuid), s.roles[i]? = some other →
          other.name = r.name →
          (q.validate now.entropy.id = .ok r → i ≠ now.entropy.id →
            Event.answer settings ⟨now, .addRole q⟩ (.ready s) =
              (.error (roleConflict r), .ready s)) ∧
          ∀ id, q.validate id = .ok r → i ≠ id → id ∈ s.roles →
            Event.answer settings ⟨now, .editRole id q⟩ (.ready s) =
              (.error (roleConflict r), .ready s)) ∧
        ∀ (id : Uuid) r, s.roles[id]? = some r →
          Event.answer settings ⟨now, .editRole id r.request⟩ (.ready s) =
            (.ok (.role r), .ready s) := by
  obtain ⟨s, hs, h⟩ := registry_after c events
  refine ⟨s, hs, fun id r hr => ?_, h.named, h.size_le, ?_, fun settings now => ⟨?_, ?_⟩⟩
  · have hnormal := h.normal id r hr
    exact ⟨h.filed id r hr, hnormal.localizedName.exists_not_blank hnormal.localized,
      hnormal.localizedName, hnormal.notes⟩
  · refine ⟨s.roleList, fun settings now => ?_, h.rolesIn_pairwise (.refl _),
      fun r => h.mem_roleList, fun entries hp => h.rolesIn_eq hp⟩
    exact Action.perform_map ..
  · intro q r other i hother hname
    exact ⟨fun hq hne => h.answer_addRole_taken hq hother hname hne,
      fun id hq hne hmem => h.answer_editRole_taken hq hmem hother hname hne⟩
  · exact fun id r hr => h.answer_editRole_self hr

/-- Two roles, put down with white space around their texts and listed by name: one is asked for again
as it is, and the other cannot take its name. -/
theorem second_admin_conflicts :
    let c := Settings.ofSecret "secret"
    let now (id : Uuid) : Circumstances := ⟨⟨.ofSeconds 0 0, .ofSeconds 0 0⟩, ⟨id, [], []⟩⟩
    let q : Rights.Request := .ofList [("ORDERS", ["UPDATE", "READ"]), ("CHAR", [])]
    let rights := Rights.empty.put .orders (.ofList [.read, .update])
    let events : List Event := [⟨now ⟨2⟩, .addRole ⟨"MANAGER", " Manager", "", q⟩⟩,
      ⟨now ⟨1⟩, .addRole ⟨" ADMIN", "Admin ", " all\n", q⟩⟩]
    let admin : Role := ⟨⟨1⟩, .admin, "Admin", "all", rights⟩
    let manager : Role := ⟨⟨2⟩, .manager, "Manager", "", rights⟩
    let renamed : Role := { manager with name := .admin }
    ∃ s, (ready .empty).after c events = .ready s ∧
      Event.answer c ⟨now ⟨3⟩, .getRoles⟩ (.ready s) = (.ok (.roles [admin, manager]), .ready s) ∧
      Event.answer c ⟨now ⟨3⟩, .editRole ⟨1⟩ admin.request⟩ (.ready s) =
        (.ok (.role admin), .ready s) ∧
      Event.answer c ⟨now ⟨3⟩, .editRole ⟨2⟩ ⟨"ADMIN ", "Manager", "", q⟩⟩ (.ready s) =
        (.error (roleConflict renamed), .ready s) := by
  intro c now q rights events admin manager renamed
  obtain ⟨s, hs, -, -, -, ⟨rs, hanswer, -, hmem, hgathered⟩, hasked⟩ := roles_registered c events
  have hentries : ((ready .empty).after c events).store?.map (·.roles.toList) =
      some [(⟨1⟩, admin), (⟨2⟩, manager)] := by decide +kernel
  rw [hs] at hentries
  have hentries : s.roles.toList = [(⟨1⟩, admin), (⟨2⟩, manager)] := Option.some.inj hentries
  have hlist : rs = [admin, manager] := by
    rw [← hgathered s.roles.toList (.refl _), hentries]
    exact List.mergeSort_of_pairwise (by decide)
  subst hlist
  have hadmin : s.roles[admin.id]? = some admin := (hmem admin).mp (by simp)
  have hmanager : manager.id ∈ s.roles := by
    rw [← Std.ExtTreeMap.isSome_getElem?_iff_mem, (hmem manager).mp (by simp)]
    rfl
  have hvalid : RoleRequest.validate ⟨"ADMIN ", "Manager", "", q⟩ ⟨2⟩ = .ok renamed := by
    decide +kernel
  obtain ⟨hconflict, hself⟩ := hasked c (now ⟨3⟩)
  exact ⟨s, hs, hanswer c (now ⟨3⟩), hself ⟨1⟩ admin hadmin,
    (hconflict _ renamed admin ⟨1⟩ hadmin rfl).2 ⟨2⟩ hvalid (by decide) hmanager⟩

end Database

end Turnstile
