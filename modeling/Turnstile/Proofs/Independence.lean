import Turnstile.Proofs.Accounts
import Turnstile.Proofs.ContextRows
import Turnstile.Proofs.Programs
import Turnstile.Proofs.Runs

/-! Operations on the rights and contexts of different users do not meet. What a call that is made
for one user answers depends on that user's share of the store and on the roles, and it writes to the
share alone; so does whatever is made up of such calls, an operation or a run of them, and two of
these for different users can change places. -/
namespace Turnstile

namespace Store

variable {α β γ : Type} {user other : Uuid} {s t u : Store}

/-- The stores have the same for the user: the record, the context rows and the roles. -/
structure Agree (user : Uuid) (s t : Store) : Prop where
  record : s.accounts[user]? = t.accounts[user]?
  rows : ∀ m : String, s.contexts[(user, m)]? = t.contexts[(user, m)]?
  roles : s.roles = t.roles

/-- Only the record and the context rows of the user may have changed. -/
structure Touches (user : Uuid) (s s' : Store) : Prop where
  records : ∀ other : Uuid, other ≠ user → s'.accounts[other]? = s.accounts[other]?
  rows : ∀ (other : Uuid) (m : String), other ≠ user →
    s'.contexts[(other, m)]? = s.contexts[(other, m)]?
  roles : s'.roles = s.roles
  ledger : s'.ledger = s.ledger

namespace Agree

theorem symm (h : s.Agree user t) : t.Agree user s :=
  ⟨h.record.symm, fun m => (h.rows m).symm, h.roles.symm⟩

theorem trans (h : s.Agree user t) (h' : t.Agree user u) : s.Agree user u :=
  ⟨h.record.trans h'.record, fun m => (h.rows m).trans (h'.rows m), h.roles.trans h'.roles⟩

theorem mem_iff (h : s.Agree user t) : user ∈ s.accounts ↔ user ∈ t.accounts := by
  rw [← Std.ExtTreeMap.isSome_getElem?_iff_mem, h.record, Std.ExtTreeMap.isSome_getElem?_iff_mem]

theorem rights? (h : s.Agree user t) : s.rights? user = t.rights? user := by
  rw [Store.rights?, h.record, Store.rights?]

theorem account? (h : s.Agree user t) : s.account? user = t.account? user := by
  rw [Store.account?, h.record, Store.account?]

theorem role? (h : s.Agree user t) (id : Uuid) : s.role? id = t.role? id := by
  rw [Store.role?, h.roles, Store.role?]

theorem contextRows (h : s.Agree user t) : s.contextRows user = t.contextRows user := by
  have hfilter (r : Store) : r.contexts.toList.filter (·.1.1 = user) =
      (r.contexts.filter fun k _ => k.1 = user).toList :=
    (Std.ExtTreeMap.toList_filter (f := fun (k : Uuid × String) _ => decide (k.1 = user))).symm
  have hrows : (s.contexts.filter fun k _ => k.1 = user) =
      t.contexts.filter fun k _ => k.1 = user := by
    refine Std.ExtTreeMap.ext_getElem? fun k => ?_
    rw [Std.ExtTreeMap.getElem?_filter', Std.ExtTreeMap.getElem?_filter']
    by_cases hk : k.1 = user
    · obtain ⟨owner, m⟩ := k
      obtain rfl : owner = user := hk
      rw [h.rows m]
    · cases s.contexts[k]? <;> cases t.contexts[k]? <;> simp [hk]
  rw [Store.contextRows, hfilter, hrows, ← hfilter, Store.contextRows]

end Agree

namespace Touches

theorem refl (user : Uuid) (s : Store) : s.Touches user s :=
  ⟨fun _ _ => rfl, fun _ _ _ => rfl, rfl, rfl⟩

theorem trans (h : s.Touches user t) (h' : t.Touches user u) : s.Touches user u where
  records other hne := (h'.records other hne).trans (h.records other hne)
  rows other m hne := (h'.rows other m hne).trans (h.rows other m hne)
  roles := h'.roles.trans h.roles
  ledger := h'.ledger.trans h.ledger

/-- What is done to one user leaves the others with what they had. -/
theorem agree (h : s.Touches user t) (hne : other ≠ user) : t.Agree other s :=
  ⟨h.records other hne, fun m => h.rows other m hne, h.roles⟩

end Touches

theorem eq_of_agree (h : ∀ user, s.Agree user t) (hledger : s.ledger = t.ledger) : s = t := by
  have haccounts : s.accounts = t.accounts := Std.ExtTreeMap.ext_getElem? fun user => (h user).record
  have hcontexts : s.contexts = t.contexts :=
    Std.ExtTreeMap.ext_getElem? fun (user, m) => (h user).rows m
  cases s
  cases t
  cases haccounts
  cases hledger
  cases (h ⟨0⟩).roles
  cases hcontexts
  rfl

/-- Answers by the user's share and the roles, and writes to the share alone. -/
structure Local (user : Uuid) (f : Store → α × Store) : Prop where
  answer : ∀ {s t : Store}, s.Agree user t → (f s).1 = (f t).1
  share : ∀ {s t : Store}, s.Agree user t → (f s).2.Agree user (f t).2
  touches : ∀ s : Store, s.Touches user (f s).2

namespace Local

theorem read {f : Store → α} (h : ∀ {s t : Store}, s.Agree user t → f s = f t) :
    Local user fun s => (f s, s) := ⟨h, id, .refl user⟩

theorem pure (x : α) : Local user fun s => (x, s) := .read fun _ => rfl

theorem map (g : α → β) {f : Store → α × Store} (hf : Local user f) :
    Local user fun s => (g (f s).1, (f s).2) :=
  ⟨fun h => congrArg g (hf.answer h), hf.share, hf.touches⟩

/-- One step after another, chosen by what the first answers. -/
theorem bind {f : Store → α × Store} {g : α → Store → β × Store} (hf : Local user f)
    (hg : ∀ x, Local user (g x)) : Local user fun s => g (f s).1 (f s).2 where
  answer h := by rw [hf.answer h, (hg _).answer (hf.share h)]
  share h := by
    rw [hf.answer h]
    exact (hg _).share (hf.share h)
  touches s := (hf.touches s).trans ((hg _).touches _)

theorem ite {p : Store → Prop} [DecidablePred p] {f g : Store → α × Store}
    (hp : ∀ {s t : Store}, s.Agree user t → (p s ↔ p t)) (hf : Local user f) (hg : Local user g) :
    Local user fun s => if p s then f s else g s := by
  have hchoice : Local user fun s => if decide (p s) then f s else g s :=
    .bind (g := fun (b : Bool) s => if b then f s else g s)
      (.read fun h => decide_eq_decide.mpr (hp h)) fun b => by cases b <;> assumption
  simpa only [decide_eq_true_eq] using hchoice

/-- The user's record changed in place. -/
theorem modifyAccount (x : α) (g : AccountRecord → AccountRecord) :
    Local user fun s => (x, s.modifyAccount user g) where
  answer _ := rfl
  share h := by
    refine ⟨?_, h.rows, h.roles⟩
    rw [modifyAccount_get, modifyAccount_get, if_pos rfl, if_pos rfl, h.record]
  touches s := by
    refine ⟨fun other hne => ?_, fun _ _ _ => rfl, rfl, rfl⟩
    rw [modifyAccount_get, if_neg hne]

/-- The user's context rows changed, each by what it was. -/
theorem contexts (x : α) {w : Store → Std.ExtTreeMap (Uuid × String) Bool ContextKey.cmp}
    (g : String → Option Bool → Option Bool)
    (hw : ∀ (s : Store) (other : Uuid) (m : String), (w s)[(other, m)]? =
      if other = user then g m s.contexts[(other, m)]? else s.contexts[(other, m)]?) :
    Local user fun s => (x, { s with contexts := w s }) where
  answer _ := rfl
  share h := by
    refine ⟨h.record, fun m => ?_, h.roles⟩
    change (w _)[(user, m)]? = (w _)[(user, m)]?
    rw [hw, hw, if_pos rfl, if_pos rfl, h.rows]
  touches s := by
    refine ⟨fun _ _ => rfl, fun other m hne => ?_, rfl, rfl⟩
    change (w s)[(other, m)]? = _
    rw [hw, if_neg hne]

/-- Whatever the user has, the step comes to one that is local. -/
theorem cases {q : Store → γ} {f : Store → α × Store}
    (hq : ∀ {s t : Store}, s.Agree user t → q s = q t)
    (hf : ∀ x, ∃ g, Local user g ∧ ∀ s, q s = x → f s = g s) : Local user f where
  answer {s t} h := by
    obtain ⟨g, hg, hsame⟩ := hf (q s)
    rw [hsame s rfl, hsame t (hq h).symm]
    exact hg.answer h
  share {s t} h := by
    obtain ⟨g, hg, hsame⟩ := hf (q s)
    rw [hsame s rfl, hsame t (hq h).symm]
    exact hg.share h
  touches s := by
    obtain ⟨g, hg, hsame⟩ := hf (q s)
    rw [hsame s rfl]
    exact hg.touches s

/-- Steps for different users can change places. -/
theorem comm {other : Uuid} {f : Store → α × Store} {g : Store → β × Store} (hf : Local user f)
    (hg : Local other g) (hne : user ≠ other) (s : Store) :
    (g (f s).2).1 = (g s).1 ∧ (f (g s).2).1 = (f s).1 ∧ (g (f s).2).2 = (f (g s).2).2 := by
  have hother : (f s).2.Agree other s := (hf.touches s).agree hne.symm
  have huser : (g s).2.Agree user s := (hg.touches s).agree hne
  refine ⟨hg.answer hother, hf.answer huser, eq_of_agree (fun third => ?_) ?_⟩
  · -- either way each of the two has what the own step leaves, and everyone else what was there
    have hlast := hg.touches (f s).2
    have hlast' := hf.touches (g s).2
    by_cases hthird : third = other
    · subst hthird
      exact (hg.share hother).trans (hlast'.agree hne.symm).symm
    · refine (hlast.agree hthird).trans ?_
      by_cases hthird' : third = user
      · subst hthird'
        exact (hf.share huser).symm
      · exact ((hf.touches s).agree hthird').trans
          (((hg.touches s).agree hthird).symm.trans (hlast'.agree hthird').symm)
  · rw [(hg.touches _).ledger, (hf.touches _).ledger, (hf.touches _).ledger, (hg.touches _).ledger]

end Local

/-! The calls that are made for a user. -/

variable (user)

theorem local_replaceRights (r : Rights) : Local user (replaceRights · user r) :=
  .ite Agree.mem_iff (.modifyAccount true _) (.pure false)

theorem local_grantRights (r : Rights) : Local user (grantRights user r) :=
  .ite (fun h => by rw [h.rights?]) (local_replaceRights user r) (.pure false)

theorem local_updateRights (change : Rights → Except Error Rights) :
    Local user (updateRights user change) := by
  refine .cases Agree.rights? fun own => ?_
  cases own with
  | none => exact ⟨_, .pure (.error (.notFound "user")), fun s h => by rw [updateRights, h]⟩
  | some r =>
    cases hr : change r with
    | error e => exact ⟨_, .pure (.error e), fun s h => by simp only [updateRights, h, hr]⟩
    | ok left =>
      exact ⟨_, .modifyAccount (.ok left) fun a => { a with rights := left },
        fun s h => by simp only [updateRights, h, hr]⟩

theorem local_insertContext (x : α) (merchant : String) (isGlobal : Bool) : Local user fun s =>
    (x, { s with contexts := s.contexts.insert (user, merchant) isGlobal }) :=
  .contexts x (fun m row => if m = merchant then some isGlobal else row) fun s other m =>
    (insertContext_get user other m s.contexts merchant isGlobal).trans (ite_and ..)

theorem local_eraseContext (x : α) (merchant : String) : Local user fun s =>
    (x, { s with contexts := s.contexts.erase (user, merchant) }) :=
  .contexts x (fun m row => if m = merchant then none else row) fun s other m =>
    (eraseContext_get user other m s.contexts merchant).trans (ite_and ..)

theorem local_dropContexts (x : α) : Local user fun s => (x, s.dropContexts user) :=
  .contexts x (fun _ _ => none) fun s other m => dropContexts_get s user other m

theorem local_addMerchant (merchant : String) : Local user (addMerchant user merchant) := by
  have hinsert := local_insertContext user (Except.ok () : Except Error Unit) merchant false
  exact .ite Agree.mem_iff (.bind (local_eraseContext user () "") fun _ => hinsert) (.pure _)

theorem local_setGlobal (isGlobal : Bool) : Local user (setGlobal user isGlobal) := by
  refine .ite Agree.mem_iff ?_ (.pure _)
  cases isGlobal with
  | true =>
    have hinsert := local_insertContext user (Except.ok () : Except Error Unit) "" true
    exact .bind (local_dropContexts user ()) fun _ => hinsert
  | false => exact local_eraseContext user _ ""

theorem local_deleteMerchant (merchant : String) : Local user (deleteMerchant user merchant) := by
  have hthere : Local user fun s => (s.contexts.contains (user, merchant), s) := .read fun h => by
    rw [Std.ExtTreeMap.contains_eq_isSome_getElem?, h.rows,
      Std.ExtTreeMap.contains_eq_isSome_getElem?]
  exact hthere.bind fun there => local_eraseContext user there merchant

theorem local_deleteContexts : Local user (deleteContexts user) := by
  have hcount : Local user fun s => ((s.contextRows user).length, s) :=
    .read fun h => congrArg List.length h.contextRows
  exact hcount.bind fun count => local_dropContexts user count

end Store

namespace StoreCall

/-- The call is made for the user, or looks up a role. -/
inductive IsFor (user : Uuid) : {α : Type} → StoreCall α → Prop where
  | account : IsFor user (.account user)
  | rights : IsFor user (.rights user)
  | grantRights (r : Rights) : IsFor user (.grantRights user r)
  | replaceRights (r : Rights) : IsFor user (.replaceRights user r)
  | updateRights (change : Rights → Except Error Rights) : IsFor user (.updateRights user change)
  | role (id : Uuid) : IsFor user (.role id)
  | addMerchant (merchant : String) : IsFor user (.addMerchant user merchant)
  | setGlobal (isGlobal : Bool) : IsFor user (.setGlobal user isGlobal)
  | contextRows : IsFor user (.contextRows user)
  | deleteMerchant (merchant : String) : IsFor user (.deleteMerchant user merchant)
  | deleteContexts : IsFor user (.deleteContexts user)

open Store in
theorem IsFor.local_onStore {α : Type} {user : Uuid} {k : StoreCall α} (h : k.IsFor user) :
    Local user k.onStore := by
  cases h with
  | account => exact (Local.read Agree.account?).map _
  | rights => exact (Local.read Agree.rights?).map _
  | grantRights r => exact (local_grantRights user r).map _
  | replaceRights r => exact (local_replaceRights user r).map _
  | updateRights change => exact local_updateRights user change
  | role id => exact (Local.read (Agree.role? · id)).map _
  | addMerchant merchant => exact local_addMerchant user merchant
  | setGlobal isGlobal => exact local_setGlobal user isGlobal
  | contextRows => exact (Local.read Agree.contextRows).map _
  | deleteMerchant merchant => exact (local_deleteMerchant user merchant).map _
  | deleteContexts => exact (local_deleteContexts user).map _

end StoreCall

namespace Program

variable {α : Type} {a : Action α}

/-- Whichever way the program goes, all its calls are of the kind. -/
def Calls (P : {β : Type} → StoreCall β → Prop) : {α : Type} → {a : Action α} → Program a → Prop
  | _, _, .known _ _ => True
  | _, _, .call k => P k
  | _, _, .map _ p => p.Calls P
  | _, _, .bind p q => p.Calls P ∧ ∀ x, (q x).Calls P
  | _, _, .ite _ _ p q => p.Calls P ∧ q.Calls P
  | _, _, .ofEq _ p => p.Calls P

/-- A program whose calls are all for one user does as a whole what such a call does. -/
theorem exists_local {user : Uuid} (p : Program a) (h : p.Calls (StoreCall.IsFor user)) :
    ∃ f : Store → Except Error α × Store, Store.Local user f ∧
      ∀ s, a.perform (.ready s) = ((f s).1, .ready (f s).2) := by
  induction p with
  | known x hx => exact ⟨fun s => (x, s), .pure x, fun s => hx _⟩
  | call k => exact ⟨k.onStore, h.local_onStore, fun s => rfl⟩
  | map g p ih =>
    obtain ⟨f, hf, hperform⟩ := ih h
    exact ⟨_, hf.map (Except.map g), fun s => by rw [Action.perform_map, hperform]⟩
  | @bind α β a rest p q ihp ihq =>
    obtain ⟨f, hf, hperform⟩ := ihp h.1
    -- what comes next is chosen by the answer, and after a failure it is nothing
    have hrest (answer : Except Error α) : ∃ g : Store → Except Error β × Store,
        Store.Local user g ∧ ∀ s, ((liftM answer : Action α) >>= rest).perform (.ready s) =
          ((g s).1, .ready (g s).2) := by
      cases answer with
      | error e => exact ⟨fun s => (.error e, s), .pure _, fun s => rfl⟩
      | ok x => exact ihq x (h.2 x)
    choose g hg hrest using hrest
    refine ⟨_, hf.bind hg, fun s => ?_⟩
    rw [← hrest, Action.perform_bind, Action.perform_bind, hperform, Action.perform_liftM]
  | ite c d p q ihp ihq =>
    split
    · exact ihp h.1
    · exact ihq h.2
  | ofEq heq p ih =>
    subst heq
    exact ih h

end Program

namespace Operation

/-- The user whose profile, rights or contexts the operation reads, or whose rights or contexts it
changes. -/
def subject? : Operation → Option Uuid
  | .getUser user | .getUserRights user | .grant user _ | .editRights user _ | .revoke user _
  | .assign user _ _ | .addContext user _ _ | .editContext user _ | .getContexts user
  | .deleteContext user _ | .deleteContexts user => some user
  | _ => none

/-- All that it asks of a store is asked for that user. -/
theorem calls_program {o : Operation} {user : Uuid} (h : o.subject? = some user) (c : Settings)
    (now : Circumstances) : (o.program c now).Calls (StoreCall.IsFor user) := by
  have hlisted : (Scoping.getProgram user).Calls (StoreCall.IsFor user) :=
    ⟨.contextRows, fun _ => trivial⟩
  cases o with
  | getUser =>
    cases h
    exact ⟨.account, fun _ => trivial⟩
  | getUserRights =>
    cases h
    exact ⟨.rights, fun _ => trivial⟩
  | grant =>
    cases h
    exact ⟨trivial, fun r => ⟨.grantRights r, fun _ => ⟨trivial, .rights,
      fun | some _ => trivial | none => trivial⟩⟩⟩
  | editRights =>
    cases h
    exact ⟨trivial, fun r => ⟨.replaceRights r, fun _ => ⟨trivial, fun _ => trivial⟩⟩⟩
  | revoke =>
    cases h
    exact ⟨trivial, fun _ => .updateRights _⟩
  | assign =>
    cases h
    exact ⟨.role _, fun _ => ⟨trivial, fun _ => .updateRights _⟩⟩
  | addContext =>
    cases h
    exact ⟨⟨.setGlobal true, fun _ => hlisted⟩, trivial, fun _ => ⟨.addMerchant _, fun _ => hlisted⟩⟩
  | editContext =>
    cases h
    exact ⟨.setGlobal _, fun _ => hlisted⟩
  | getContexts =>
    cases h
    exact hlisted
  | deleteContext =>
    cases h
    exact ⟨⟨trivial, fun _ => ⟨.deleteMerchant _, fun _ => trivial⟩⟩, .deleteMerchant _,
      fun _ => trivial⟩
  | deleteContexts =>
    cases h
    exact .deleteContexts
  | _ => cases h

end Operation

namespace Event

variable (c : Settings)

theorem exists_local {e : Event} {user : Uuid} (he : e.operation.subject? = some user) :
    ∃ f : Store → Except Error Reply × Store, Store.Local user f ∧
      ∀ s, e.answer c (.ready s) = ((f s).1, .ready (f s).2) :=
  (e.operation.program c e.circumstances).exists_local (Operation.calls_program he c _)

/-- From whatever store, an operation on the rights or contexts of one user and an operation on those
of another answer as they would alone, whichever comes first, and in either order they leave the same
store. -/
theorem answers_commute (s : Store) {e f : Event} {user other : Uuid}
    (he : e.operation.subject? = some user) (hf : f.operation.subject? = some other)
    (hne : user ≠ other) :
    ∃ s', f.answer c (e.answer c (.ready s)).2 = ((f.answer c (.ready s)).1, .ready s') ∧
      e.answer c (f.answer c (.ready s)).2 = ((e.answer c (.ready s)).1, .ready s') := by
  obtain ⟨step, hlocal, hstep⟩ := exists_local c he
  obtain ⟨step', hlocal', hstep'⟩ := exists_local c hf
  obtain ⟨hanswer', hanswer, hstore⟩ := hlocal.comm hlocal' hne s
  simp only [hstep, hstep', hanswer, hanswer', hstore]
  exact ⟨_, rfl, rfl⟩

/-- All merchants of one user are removed, and another is bound to one of them. -/
theorem removed_beside_added :
    let c := Settings.ofSecret "secret"
    let now (id : Uuid) : Circumstances := ⟨⟨.ofSeconds 0 0, .ofSeconds 0 0⟩, ⟨id, [], []⟩⟩
    let db := (Database.ready .empty).after c
      [⟨now ⟨1⟩, .register ⟨"+15551234567", none, "Passw0rd!", none, none⟩⟩,
        ⟨now ⟨2⟩, .register ⟨"+15557654321", none, "Passw0rd!", none, none⟩⟩,
        ⟨now ⟨1⟩, .addContext ⟨1⟩ (some "north") false⟩,
        ⟨now ⟨1⟩, .addContext ⟨1⟩ (some "south") false⟩]
    let e : Event := ⟨now ⟨1⟩, .deleteContexts ⟨1⟩⟩
    let f : Event := ⟨now ⟨2⟩, .addContext ⟨2⟩ (some "south") false⟩
    e.operation.subject? = some ⟨1⟩ ∧ f.operation.subject? = some ⟨2⟩ ∧
      ∃ s s', db = .ready s ∧
        f.answer c (e.answer c (.ready s)).2 = (.ok (.contexts ⟨⟨2⟩, ["south"], false⟩), .ready s') ∧
        e.answer c (f.answer c (.ready s)).2 = (.ok (.removed 2), .ready s') := by
  intro c now db e f
  have he : (e.answer c db).1 = .ok (.removed 2) := by decide +kernel +zetaReduce
  have hf : (f.answer c db).1 = .ok (.contexts ⟨⟨2⟩, ["south"], false⟩) := by
    decide +kernel +zetaReduce
  cases hdb : db with
  | closed =>
    rw [hdb] at he
    cases he
  | ready s =>
    rw [hdb] at he hf
    obtain ⟨s', hef, hfe⟩ := answers_commute c s (e := e) (f := f) rfl rfl (by decide)
    rw [hf] at hef
    rw [he] at hfe
    exact ⟨rfl, rfl, s, s', rfl, hef, hfe⟩

end Event

namespace Database

variable (c : Settings)

/-- What the events of a run answer, in order. -/
def answers (db : Database) (events : List Event) : List (Except Error Reply) :=
  (db.moments c events).map Moment.answer

/-- A run for one user does as a whole what one call for the user does. -/
theorem exists_local {user : Uuid} {events : List Event}
    (h : ∀ e ∈ events, e.operation.subject? = some user) :
    ∃ f : Store → List (Except Error Reply) × Store, Store.Local user f ∧
      ∀ s, (ready s).answers c events = (f s).1 ∧ (ready s).after c events = .ready (f s).2 := by
  induction events with
  | nil => exact ⟨fun s => ([], s), .pure [], fun s => ⟨rfl, rfl⟩⟩
  | cons e events ih =>
    obtain ⟨he, hrest⟩ := List.forall_mem_cons.mp h
    obtain ⟨step, hstep, hanswer⟩ := Event.exists_local c he
    obtain ⟨f, hf, hrun⟩ := ih hrest
    refine ⟨_, hstep.bind fun answer => hf.map (answer :: ·), fun s => ?_⟩
    have hanswers : (ready s).answers c (e :: events) =
        (e.answer c (.ready s)).1 :: ((e.answer c (.ready s)).2).answers c events := rfl
    have hafter : (ready s).after c (e :: events) = ((e.answer c (.ready s)).2).after c events := rfl
    rw [hanswers, hafter, hanswer, (hrun _).1, (hrun _).2]
    exact ⟨rfl, rfl⟩

/-- Two runs for different users answer as they would alone, whichever comes first, and in either
order they leave the same store. -/
theorem runs_commute (s : Store) {es fs : List Event} {user other : Uuid}
    (hes : ∀ e ∈ es, e.operation.subject? = some user)
    (hfs : ∀ f ∈ fs, f.operation.subject? = some other) (hne : user ≠ other) :
    ((ready s).after c es).answers c fs = (ready s).answers c fs ∧
      ((ready s).after c fs).answers c es = (ready s).answers c es ∧
      (ready s).after c (es ++ fs) = (ready s).after c (fs ++ es) := by
  obtain ⟨f, hf, hrun⟩ := exists_local c hes
  obtain ⟨g, hg, hrun'⟩ := exists_local c hfs
  obtain ⟨hanswers', hanswers, hstore⟩ := hf.comm hg hne s
  have hafter (es fs : List Event) :
      (ready s).after c (es ++ fs) = ((ready s).after c es).after c fs := List.foldl_append ..
  rw [hafter, hafter, (hrun s).2, (hrun' s).2, (hrun _).2, (hrun' _).2, hstore]
  simp only [(hrun _).1, (hrun' _).1, hanswers, hanswers', and_self]

end Database

end Turnstile
