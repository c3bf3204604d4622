import Mathlib.Data.Finset.Sort
import Turnstile.Proofs.ContextRows
import Turnstile.Proofs.Effects

/-! What users may act for. A user is global or bound to a finite set of merchants, and an operation
on the contexts of a user is told by what it answers and what it makes of that. At every point of a
run the rows of a user are those of the scope the run has come to. -/
namespace Turnstile

/-- What a user may act for: everything, or some merchants. -/
inductive Scope where
  | global
  | merchants (ids : Finset String)
  deriving DecidableEq

/-- What can be done to the contexts of a user. -/
inductive ContextCommand where
  | add (merchant : Option String) (isGlobal : Bool)
  | edit (isGlobal : Bool)
  | get
  | delete (merchant : String)
  | deleteAll

def ContextCommand.operation (user : Uuid) : ContextCommand → Operation
  | add merchant isGlobal => .addContext user merchant isGlobal
  | edit isGlobal => .editContext user isGlobal
  | get => .getContexts user
  | delete merchant => .deleteContext user merchant
  | deleteAll => .deleteContexts user

/-- Whose contexts the operation is about, and what it does to them. -/
def Operation.contextCommand? : Operation → Option (Uuid × ContextCommand)
  | addContext user merchant isGlobal => some (user, .add merchant isGlobal)
  | editContext user isGlobal => some (user, .edit isGlobal)
  | getContexts user => some (user, .get)
  | deleteContext user merchant => some (user, .delete merchant)
  | deleteContexts user => some (user, .deleteAll)
  | _ => none

theorem Operation.contextCommand?_eq_some_iff {o : Operation} {user : Uuid} {k : ContextCommand} :
    o.contextCommand? = some (user, k) ↔ o = k.operation user := by
  constructor
  · intro h
    cases o <;> cases h <;> rfl
  · rintro rfl
    cases k <;> rfl

namespace Scope

def ids : Scope → Finset String
  | global => ∅
  | merchants ids => ids

def isGlobal : Scope → Bool
  | global => true
  | merchants _ => false

/-- The merchant ids of the rows; being global stands under the empty one. -/
def keys : Scope → Finset String
  | global => {""}
  | merchants ids => ids

/-- What the row under a merchant id says, if there is one. -/
def row? (v : Scope) (m : String) : Option Bool := if m ∈ v.keys then some v.isGlobal else none

theorem row?_global (m : String) : global.row? m = if m = "" then some true else none := by
  simp [row?, keys, isGlobal]

theorem row?_merchants (ids : Finset String) (m : String) :
    (merchants ids).row? m = if m ∈ ids then some false else none := rfl

def listed (user : Uuid) (v : Scope) : UserContexts := ⟨user, v.ids.sort, v.isGlobal⟩

/-- What an operation on the contexts of a user answers, and the scope it leaves. -/
def perform (user : Uuid) (v : Scope) : ContextCommand → Except Error Reply × Scope
  | .add _ true | .edit true => (.ok (.contexts (global.listed user)), global)
  | .add merchant false =>
    let m := Text.trim (merchant.getD "")
    if Merchant.validId m then
      let v := merchants (insert m v.ids)
      (.ok (.contexts (v.listed user)), v)
    else (.error (.validation "merchant id is required unless the context is global"), v)
  | .edit false =>
    let v := merchants v.ids
    (.ok (.contexts (v.listed user)), v)
  | .get => (.ok (.contexts (v.listed user)), v)
  | .delete merchant =>
    let m := Text.trim merchant
    if m ∈ v.ids then (.ok .done, merchants (v.ids.erase m))
    else (.error (.notFound "user context"), v)
  | .deleteAll => (.ok (.removed v.keys.card), merchants ∅)

/-- The store has the rows of the scope for the user and no others, and all its merchant ids are
well formed. -/
structure Shows (s : Store) (user : Uuid) (v : Scope) : Prop where
  rows : ∀ m : String, s.contexts[(user, m)]? = v.row? m
  valid : ∀ m ∈ v.ids, Merchant.validId m = true

namespace Shows

variable {s s' : Store} {user : Uuid} {v : Scope}

theorem of_rows_eq (h : Shows s user v)
    (hrows : ∀ m : String, s'.contexts[(user, m)]? = s.contexts[(user, m)]?) : Shows s' user v :=
  ⟨fun m => (hrows m).trans (h.rows m), h.valid⟩

theorem ids_eq_keys_erase (h : Shows s user v) : v.ids = v.keys.erase "" := by
  cases v with
  | global => rfl
  | merchants ids =>
    refine (Finset.erase_eq_of_notMem fun hm => ?_).symm
    have hblank := h.valid "" hm
    revert hblank
    decide

theorem mem_ids_iff (h : Shows s user v) {m : String} :
    m ∈ v.ids ↔ m ≠ "" ∧ (user, m) ∈ s.contexts := by
  rw [h.ids_eq_keys_erase, Finset.mem_erase, ← Std.ExtTreeMap.isSome_getElem?_iff_mem, h.rows, row?]
  simp

theorem mem_contextRows_iff (h : Shows s user v) {row : ContextRow} :
    row ∈ s.contextRows user ↔ row.merchantId ∈ v.keys ∧ v.isGlobal = row.isGlobal := by
  rw [Store.mem_contextRows, h.rows, row?]
  simp

theorem merchantIds_toFinset (h : Shows s user v) :
    ((s.contextRows user).map ContextRow.merchantId).toFinset = v.keys := by
  ext m
  simp only [List.mem_toFinset, List.mem_map, h.mem_contextRows_iff]
  constructor
  · rintro ⟨row, ⟨hm, -⟩, rfl⟩
    exact hm
  · exact fun hm => ⟨⟨m, v.isGlobal⟩, ⟨hm, rfl⟩, rfl⟩

theorem length_contextRows (h : Shows s user v) : (s.contextRows user).length = v.keys.card := by
  rw [← h.merchantIds_toFinset, List.toFinset_card_of_nodup (s.nodup_contextRows user),
    List.length_map]

theorem ofRows_eq (h : Shows s user v) :
    UserContexts.ofRows user (s.contextRows user) = v.listed user := by
  have hids : (UserContexts.ofRows user (s.contextRows user)).merchantIds = v.ids.sort := by
    have hsorted := UserContexts.pairwise_merchantIds user (s.contextRows user)
    have hset : (UserContexts.ofRows user (s.contextRows user)).merchantIds.toFinset = v.ids := by
      ext m
      rw [List.mem_toFinset, UserContexts.mem_merchantIds, h.ids_eq_keys_erase, Finset.mem_erase,
        ← h.merchantIds_toFinset, List.mem_toFinset, List.mem_map]
    rw [← hset]
    exact ((List.toFinset_sort (· ≤ ·) (hsorted.imp ne_of_lt)).mpr (hsorted.imp le_of_lt)).symm
  have hglobal : (UserContexts.ofRows user (s.contextRows user)).isGlobal = v.isGlobal := by
    rw [Bool.eq_iff_iff]
    refine List.any_eq_true.trans ?_
    simp only [h.mem_contextRows_iff]
    cases v with
    | global => simpa [keys, isGlobal] using ⟨⟨"", true⟩, rfl, rfl⟩
    | merchants ids => simp [isGlobal]
  exact UserContexts.mk.injEq .. |>.mpr ⟨rfl, hids, hglobal⟩

theorem comma_notMem (h : Shows s user v) {m : String} (hm : m ∈ v.ids) : ',' ∉ m.toList := by
  intro hcomma
  have hchars := (Bool.and_eq_true_iff.mp (h.valid m hm)).2
  have hid := List.all_eq_true.mp hchars ',' hcomma
  revert hid
  decide

/-- No id has a comma in it, so nothing is lost in joining them. -/
theorem split_joined (h : Shows s user v) (hne : (v.listed user).merchantIds ≠ []) :
    ((v.listed user).joined.split ',').toList.map (·.copy) = (v.listed user).merchantIds := by
  have hsplit := String.toList_split_intercalate (c := ',') (l := (v.listed user).merchantIds)
    fun m hm => h.comma_notMem (Finset.mem_sort (· ≤ ·) |>.mp hm)
  rwa [if_neg hne] at hsplit

/-! What each write to the rows of the user makes of the scope. -/

theorem beGlobal (s : Store) (user : Uuid) :
    Shows { s.dropContexts user with
      contexts := (s.dropContexts user).contexts.insert (user, "") true } user global := by
  refine ⟨fun m => ?_, by simp [ids]⟩
  rw [Store.insertContext_get, Store.dropContexts_get, row?_global]
  simp

theorem ceaseGlobal (h : Shows s user v) :
    Shows { s with contexts := s.contexts.erase (user, "") } user (merchants v.ids) := by
  refine ⟨fun m => ?_, h.valid⟩
  rw [Store.eraseContext_get, h.rows, row?_merchants, h.ids_eq_keys_erase]
  by_cases hm : m = ""
  · simp [hm]
  · cases v <;> simp [hm, row?_global, row?_merchants, keys]

theorem insertMerchant {ids : Finset String} (h : Shows s user (merchants ids)) {m : String}
    (hm : Merchant.validId m = true) :
    Shows { s with contexts := s.contexts.insert (user, m) false } user
      (merchants (insert m ids)) := by
  refine ⟨fun n => ?_, fun n hn => ?_⟩
  · rw [Store.insertContext_get, h.rows, row?_merchants, row?_merchants]
    by_cases hn : n = m <;> simp [hn]
  · rcases Finset.mem_insert.mp hn with rfl | hn
    · exact hm
    · exact h.valid n hn

theorem deleteMerchant (h : Shows s user v) {m : String} (hm : m ∈ v.ids) :
    Shows { s with contexts := s.contexts.erase (user, m) } user (merchants (v.ids.erase m)) := by
  refine ⟨fun n => ?_, fun n hn => h.valid n (Finset.mem_of_mem_erase hn)⟩
  cases v with
  | global => exact absurd hm (Finset.notMem_empty m)
  | merchants ids =>
    rw [Store.eraseContext_get, h.rows, row?_merchants, row?_merchants]
    by_cases hn : n = m <;> simp [hn, Scope.ids]

theorem dropContexts (s : Store) (user : Uuid) :
    Shows (s.dropContexts user) user (merchants ∅) := by
  refine ⟨fun m => ?_, by simp [ids]⟩
  rw [Store.dropContexts_get, row?_merchants]
  simp

variable (c : Settings) (now : Circumstances)

/-- The command answers what the scope says, and the rows it leaves are those of the scope it
leaves. -/
def Performs (s : Store) (user : Uuid) (v : Scope) (k : ContextCommand) : Prop :=
  ∃ s', Event.answer c ⟨now, k.operation user⟩ (.ready s) = ((v.perform user k).1, .ready s') ∧
    Shows s' user (v.perform user k).2

theorem performs_add (h : Shows s user v) (hmem : user ∈ s.accounts) (merchant : Option String)
    (isGlobal : Bool) : Performs c now s user v (.add merchant isGlobal) := by
  have hanswer : Event.answer c ⟨now, .addContext user merchant isGlobal⟩ (.ready s) = _ :=
    Action.perform_map ..
  cases isGlobal with
  | true =>
    have hglobal := beGlobal s user
    rw [Scoping.perform_add_global_ready, Store.setGlobal, if_pos hmem] at hanswer
    simp only [if_true, Except.map, hglobal.ofRows_eq] at hanswer
    exact ⟨_, hanswer, hglobal⟩
  | false =>
    rw [Scoping.perform_add_merchant_ready, Store.addMerchant, if_pos hmem] at hanswer
    unfold Performs
    simp only [Scope.perform]
    split at hanswer
    next hm =>
      have hadded := h.ceaseGlobal.insertMerchant hm
      simp only [Except.map, hadded.ofRows_eq] at hanswer
      rw [if_pos hm]
      exact ⟨_, hanswer, hadded⟩
    next hm =>
      rw [if_neg hm]
      exact ⟨_, hanswer, h⟩

theorem performs_edit (h : Shows s user v) (hmem : user ∈ s.accounts) (isGlobal : Bool) :
    Performs c now s user v (.edit isGlobal) := by
  have hanswer : Event.answer c ⟨now, .editContext user isGlobal⟩ (.ready s) = _ :=
    Action.perform_map ..
  rw [Scoping.perform_edit_ready, Store.setGlobal, if_pos hmem] at hanswer
  cases isGlobal with
  | true =>
    have hglobal := beGlobal s user
    simp only [if_true, Except.map, hglobal.ofRows_eq] at hanswer
    exact ⟨_, hanswer, hglobal⟩
  | false =>
    have hceased := h.ceaseGlobal
    simp only [Bool.false_eq_true, if_false, Except.map, hceased.ofRows_eq] at hanswer
    exact ⟨_, hanswer, hceased⟩

theorem performs_delete (h : Shows s user v) (merchant : String) :
    Performs c now s user v (.delete merchant) := by
  have hanswer : Event.answer c ⟨now, .deleteContext user merchant⟩ (.ready s) = _ :=
    Action.perform_map ..
  rw [Scoping.perform_delete_ready] at hanswer
  unfold Performs
  by_cases hm : Text.trim merchant ∈ v.ids
  · obtain ⟨hne, hrow⟩ := h.mem_ids_iff.mp hm
    rw [if_neg hne, if_pos hrow] at hanswer
    simp only [Scope.perform, if_pos hm]
    exact ⟨_, hanswer, h.deleteMerchant hm⟩
  · have hrefused : Event.answer c ⟨now, .deleteContext user merchant⟩ (.ready s) =
        (.error (.notFound "user context"), .ready s) := by
      rw [h.mem_ids_iff, not_and] at hm
      split at hanswer
      next => exact hanswer
      next hne =>
        rw [if_neg (hm hne), erase_eq_of_notMem (hm hne)] at hanswer
        exact hanswer
    simp only [Scope.perform, if_neg hm]
    exact ⟨_, hrefused, h⟩

/-- Whatever is done to the contexts of a user who exists, the scope tells it. -/
theorem performs (h : Shows s user v) (hmem : user ∈ s.accounts) (k : ContextCommand) :
    Performs c now s user v k := by
  cases k with
  | add merchant isGlobal => exact h.performs_add c now hmem merchant isGlobal
  | edit isGlobal => exact h.performs_edit c now hmem isGlobal
  | get =>
    have hanswer : Event.answer c ⟨now, .getContexts user⟩ (.ready s) = _ := Action.perform_map ..
    rw [Scoping.perform_get_ready, h.ofRows_eq] at hanswer
    exact ⟨_, hanswer, h⟩
  | delete merchant => exact h.performs_delete c now merchant
  | deleteAll =>
    have hanswer : Event.answer c ⟨now, .deleteContexts user⟩ (.ready s) = _ :=
      Action.perform_map ..
    rw [Scoping.perform_deleteAll_ready, h.length_contextRows] at hanswer
    exact ⟨_, hanswer, dropContexts s user⟩

end Shows

end Scope

namespace Effect

variable {c : Settings} {now : Circumstances} {s s' : Store} {o : Operation} {reply : Reply}

/-- What is not about the contexts of a user leaves them alone. -/
theorem contexts_get (h : Effect c now s o reply s') {user : Uuid}
    (ho : ∀ k, o.contextCommand? ≠ some (user, k)) (m : String) :
    s'.contexts[(user, m)]? = s.contexts[(user, m)]? := by
  have hne {owner : Uuid} {k : ContextCommand} (hk : o.contextCommand? = some (owner, k)) :
      user ≠ owner := by
    rintro rfl
    exact ho k hk
  cases h with
  | addGlobal | beGlobal =>
    have hother := hne rfl
    rw [Store.insertContext_get, Store.dropContexts_get]
    simp [hother]
  | addMerchant =>
    have hother := hne rfl
    rw [Store.insertContext_get, Store.eraseContext_get]
    simp [hother]
  | ceaseGlobal | deleteContext =>
    have hother := hne rfl
    rw [Store.eraseContext_get]
    simp [hother]
  | deleteContexts =>
    have hother := hne rfl
    rw [Store.dropContexts_get]
    simp [hother]
  | _ => rfl

/-- For a user who does not exist there are no rows, and none come up. -/
theorem shows_missing {user : Uuid} {k : ContextCommand}
    (h : Effect c now s (k.operation user) reply s') (hmem : user ∉ s.accounts)
    (hnone : Scope.Shows s user (.merchants ∅)) : Scope.Shows s' user (.merchants ∅) := by
  cases k with
  | add =>
    cases h with
    | addGlobal _ _ _ hexists | addMerchant _ _ _ hexists => exact absurd hexists hmem
    | read _ _ ho => cases ho
  | edit =>
    cases h with
    | beGlobal _ _ hexists | ceaseGlobal _ _ hexists => exact absurd hexists hmem
    | read _ _ ho => cases ho
  | get =>
    cases h
    exact hnone
  | delete merchant =>
    cases h with
    | deleteContext _ _ hrow =>
      rw [← Std.ExtTreeMap.isSome_getElem?_iff_mem, hnone.rows] at hrow
      cases hrow
    | read => exact hnone
  | deleteAll =>
    cases h with
    | deleteContexts => exact .dropContexts s user
    | read => exact hnone

end Effect

/-- The user that registers at this moment. -/
def Moment.opened? (m : Moment) : Option Uuid :=
  match m.event.operation, m.answer with
  | .register _, .ok (.registered id) => some id
  | _, _ => none

theorem Moment.opened?_eq_some_iff {m : Moment} {user : Uuid} :
    m.opened? = some user ↔
      (∃ r, m.event.operation = .register r) ∧ m.answer = .ok (.registered user) := by
  unfold opened?
  split
  next r id ho ha => simp [ho, ha]
  next hnone =>
    refine iff_of_false nofun ?_
    rintro ⟨⟨r, ho⟩, ha⟩
    exact hnone r user ho ha

namespace Outcome

variable {c : Settings} {now : Circumstances} {s s' : Store} {o : Operation}
  {answer : Except Error Reply}

theorem contexts_get (h : Outcome c now s o answer s') {user : Uuid}
    (ho : ∀ k, o.contextCommand? ≠ some (user, k)) (m : String) :
    s'.contexts[(user, m)]? = s.contexts[(user, m)]? := by
  cases h with
  | done he => exact he.contexts_get ho m
  | _ => rfl

theorem shows_missing (h : Outcome c now s o answer s') {user : Uuid} (hmem : user ∉ s.accounts)
    (hnone : Scope.Shows s user (.merchants ∅)) : Scope.Shows s' user (.merchants ∅) := by
  by_cases ho : ∃ k, o.contextCommand? = some (user, k)
  · obtain ⟨k, hk⟩ := ho
    obtain rfl := Operation.contextCommand?_eq_some_iff.mp hk
    cases h with
    | done he => exact he.shows_missing hmem hnone
    | _ => exact hnone.of_rows_eq fun _ => rfl
  · exact hnone.of_rows_eq (h.contexts_get (not_exists.mp ho))

end Outcome

namespace Scope

/-- The scope of a user after one more moment. It begins without merchants when the user registers,
and only what is done to the user's own contexts changes it. -/
def follow (user : Uuid) (v? : Option Scope) (m : Moment) : Option Scope :=
  match v? with
  | none => if m.opened? = some user then some (merchants ∅) else none
  | some v =>
    match m.event.operation.contextCommand? with
    | some (owner, k) => some (if owner = user then (v.perform user k).2 else v)
    | none => some v

/-- The scope that a run has given a user, if there is that user. -/
def of? (user : Uuid) (ms : List Moment) : Option Scope := ms.foldl (follow user) none

theorem of?_concat (user : Uuid) (ms : List Moment) (m : Moment) :
    of? user (ms ++ [m]) = follow user (of? user ms) m := by
  simp [of?]

theorem follow_own {user : Uuid} {m : Moment} {k : ContextCommand}
    (hk : m.event.operation.contextCommand? = some (user, k)) (v : Scope) :
    follow user (some v) m = some (v.perform user k).2 := by
  simp [follow, hk]

theorem follow_other {user : Uuid} {m : Moment}
    (hother : ∀ k, m.event.operation.contextCommand? ≠ some (user, k)) (v : Scope) :
    follow user (some v) m = some v := by
  dsimp only [follow]
  split
  next owner k hk =>
    have hne : owner ≠ user := by
      rintro rfl
      exact hother k hk
    rw [if_neg hne]
  next => rfl

/-- The store agrees with the scope a user has, or has not, come to. -/
structure Fits (s : Store) (user : Uuid) (v? : Option Scope) : Prop where
  mem_iff : user ∈ s.accounts ↔ v?.isSome
  rows : Shows s user (v?.getD (merchants ∅))

namespace Fits

variable {c : Settings} {s s' : Store} {user : Uuid} {v? : Option Scope} {e : Event}
  {answer : Except Error Reply}

theorem empty (user : Uuid) : Fits .empty user none where
  mem_iff := by simp [Store.empty]
  rows := ⟨fun m => by simp [Store.empty, row?_merchants], by simp [ids]⟩

/-- One event, whatever it is, and whether or not it is about the contexts of the user. -/
theorem step (h : Fits s user v?) (he : e.answer c (.ready s) = (answer, .ready s')) :
    Fits s' user (follow user v? ⟨.ready s, e, answer⟩) := by
  obtain ⟨now, o⟩ := e
  obtain ⟨answer', t, hanswer, ho⟩ := Outcome.reached c now s o
  obtain ⟨rfl, ht⟩ := Prod.mk.inj (hanswer.symm.trans he)
  cases ht
  have hmem := ho.mem_accounts_iff user
  rw [h.mem_iff] at hmem
  cases v? with
  | none =>
    -- Whoever is not there has no rows and gets none, so only a registration counts.
    have hopened := @Moment.opened?_eq_some_iff ⟨.ready s, ⟨now, o⟩, answer'⟩ user
    have hshows : Shows s' user (merchants ∅) :=
      ho.shows_missing (by simp [h.mem_iff]) h.rows
    dsimp only [follow]
    split
    next hnew => exact ⟨hmem.trans (by simpa using hopened.mp hnew), hshows⟩
    next hnew => exact ⟨hmem.trans (by simpa using mt hopened.mpr hnew), hshows⟩
  | some v =>
    -- On the user's own contexts store and scope go together, and nothing else touches either.
    have hstays : user ∈ s'.accounts := hmem.mpr (.inl rfl)
    by_cases hown : ∃ k, o.contextCommand? = some (user, k)
    · obtain ⟨k, hk⟩ := hown
      rw [follow_own hk]
      obtain rfl := Operation.contextCommand?_eq_some_iff.mp hk
      obtain ⟨t, ht, hshows⟩ := h.rows.performs c now (h.mem_iff.mpr rfl) k
      obtain ⟨-, hs⟩ := Prod.mk.inj (ht.symm.trans he)
      cases hs
      exact ⟨by simp [hstays], hshows⟩
    · have hother := not_exists.mp hown
      rw [follow_other hother]
      exact ⟨by simp [hstays], h.rows.of_rows_eq (ho.contexts_get hother)⟩

theorem contextRows_eq_nil (h : Fits s user v?) (hmem : user ∉ s.accounts) :
    s.contextRows user = [] := by
  obtain rfl : v? = none := by simpa [h.mem_iff] using hmem
  exact List.length_eq_zero_iff.mp h.rows.length_contextRows

end Fits

end Scope

namespace Database

open Scope

theorem scopes_after (c : Settings) (events : List Event) :
    ∃ s, (ready .empty).after c events = .ready s ∧
      ∀ user, Fits s user (of? user ((ready .empty).moments c events)) := by
  refine after_induction (Q := fun _ => True)
    (P := fun events s => ∀ user, Fits s user (of? user ((ready .empty).moments c events)))
    (fun _ => trivial) .empty ?_ trivial
  intro events e s s' _ hs h he user
  rw [moments_concat, of?_concat, hs]
  exact (h user).step (Prod.ext rfl he)

/-- After every run the contexts of a user are those of a scope, which begins without merchants when
the user registers and then goes through what is done to the contexts of that user. The rows are the
global one or those of well-formed merchants, never both. Each operation on the contexts answers what
the scope tells, and leaves the rows of the scope that it makes of it. What is listed ascends, and can
be read back from the ids joined with commas. -/
theorem contexts_follow_scope (c : Settings) (events : List Event) :
    ∃ s, (ready .empty).after c events = .ready s ∧
      ∀ user : Uuid,
        (user ∈ s.accounts ↔ (of? user ((ready .empty).moments c events)).isSome) ∧
        ∀ v, of? user ((ready .empty).moments c events) = some v →
          Shows s user v ∧
          (∀ (settings : Settings) (now : Circumstances) (k : ContextCommand),
            ∃ s', Event.answer settings ⟨now, k.operation user⟩ (.ready s) =
                ((v.perform user k).1, .ready s') ∧ Shows s' user (v.perform user k).2) ∧
          (v.listed user).merchantIds.Pairwise (· < ·) ∧
          (∀ m, m ∈ (v.listed user).merchantIds ↔ m ∈ v.ids) ∧
          ((v.listed user).merchantIds ≠ [] →
            ((v.listed user).joined.split ',').toList.map (·.copy) =
              (v.listed user).merchantIds) := by
  obtain ⟨s, hs, h⟩ := scopes_after c events
  refine ⟨s, hs, fun user => ⟨(h user).mem_iff, fun v hv => ?_⟩⟩
  have hfits := h user
  rw [hv] at hfits
  have hshows : Shows s user v := hfits.rows
  exact ⟨hshows, fun settings now => hshows.performs settings now (hfits.mem_iff.mpr rfl),
    (Finset.sortedLT_sort v.ids).pairwise, fun m => Finset.mem_sort (· ≤ ·), hshows.split_joined⟩

/-- A user who was bound to one merchant, became global and was then bound to two others has those
two, and no longer the first. -/
theorem merchants_after_global :
    let c := Settings.ofSecret "secret"
    let now : Circumstances := ⟨⟨.ofSeconds 0 0, .ofSeconds 0 0⟩, ⟨⟨1⟩, [], []⟩⟩
    let events : List Event :=
      [⟨now, .register ⟨"+15551234567", none, "Passw0rd!", none, none⟩⟩,
        ⟨now, .addContext ⟨1⟩ (some "c") false⟩, ⟨now, .editContext ⟨1⟩ true⟩,
        ⟨now, .addContext ⟨1⟩ (some "b") false⟩, ⟨now, .addContext ⟨1⟩ (some " a ") false⟩]
    ∃ s, (ready .empty).after c events = .ready s ∧
      (Event.answer c ⟨now, .getContexts ⟨1⟩⟩ (.ready s)).1 =
        .ok (.contexts ⟨⟨1⟩, ["a", "b"], false⟩) ∧
      (Event.answer c ⟨now, .deleteContext ⟨1⟩ "c"⟩ (.ready s)).1 =
        .error (.notFound "user context") ∧
      (Event.answer c ⟨now, .deleteContexts ⟨1⟩⟩ (.ready s)).1 = .ok (.removed 2) := by
  intro c now events
  obtain ⟨s, hs, h⟩ := contexts_follow_scope c events
  have hscope : of? ⟨1⟩ ((ready .empty).moments c events) = some (merchants {"a", "b"}) := by
    decide +kernel
  obtain ⟨-, hanswers, -⟩ := (h ⟨1⟩).2 _ hscope
  have hsort : (merchants {"a", "b"}).listed ⟨1⟩ = ⟨⟨1⟩, ["a", "b"], false⟩ := by
    have hids : ({"a", "b"} : Finset String).sort = ["a", "b"] :=
      (List.toFinset_sort (l := ["a", "b"]) (· ≤ ·) (by decide)).mpr (by decide)
    rw [listed, ids, hids, isGlobal]
  obtain ⟨_, hget, -⟩ := hanswers c now .get
  obtain ⟨_, hdelete, -⟩ := hanswers c now (.delete "c")
  obtain ⟨_, hdeleteAll, -⟩ := hanswers c now .deleteAll
  have hmissing : ((merchants {"a", "b"}).perform ⟨1⟩ (.delete "c")).1 =
      .error (.notFound "user context") := by decide +kernel
  refine ⟨s, hs, ?_, ?_, ?_⟩
  · exact (congrArg Prod.fst hget).trans (by rw [perform, hsort])
  · exact (congrArg Prod.fst hdelete).trans hmissing
  · exact congrArg Prod.fst hdeleteAll

end Database

end Turnstile
