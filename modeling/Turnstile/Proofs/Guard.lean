import Turnstile.Http.Service
import Turnstile.Proofs.Splitting

/-! Authentication in front of the user and role resources. A caller who is turned away learns what
was wrong with the token and nothing else, and the store is not touched; a caller who gets through
is who the token says. -/
namespace Turnstile

namespace Token

theorem kind_of_acceptPayload {d : Decoding} {now : Int} {payload : List Char} {e : Error}
    (h : acceptPayload d now payload = .error e) : e.kind = .unauthorized := by
  unfold acceptPayload at h
  repeat' split at h
  all_goals cases h
  all_goals rfl

/-- A token that is not accepted is always the caller's lack of authorization. -/
theorem kind_of_verify {secret : String} {now : Instant} {token : String} {e : Error}
    (h : verify secret now token = .error e) : e.kind = .unauthorized := by
  unfold verify verifyWith at h
  split at h
  next => cases h; rfl
  next =>
    split at h
    next => cases h; rfl
    next =>
      split at h
      next => cases h; rfl
      next =>
        split at h
        next => cases h; rfl
        next => exact kind_of_acceptPayload h

end Token

namespace Error

theorem response_status (e : Error) : e.response.status = e.kind.status := by
  unfold response
  cases e.retryAfter? <;> rfl

end Error

namespace Http

/-- A bearer line is the scheme, a space, and a token with blanks around it. -/
theorem bearerOfLine?_eq_some_iff {line : List Char} {token : String} :
    bearerOfLine? line = some token ↔ ∃ scheme rest, line = scheme ++ ' ' :: rest ∧ ' ' ∉ scheme ∧
      scheme.map Char.toLower = "bearer".toList ∧ Text.trimmed rest ≠ [] ∧
      token = String.ofList (Text.trimmed rest) := by
  unfold bearerOfLine?
  dsimp only
  constructor
  · intro h
    obtain ⟨⟨hscheme, htoken⟩, heq⟩ := Option.ite_none_right_eq_some.mp h
    obtain rfl := Option.some.inj heq
    have happ := List.takeWhile_append_dropWhile (p := (· ≠ ' ')) (l := line)
    have hhead := List.head?_dropWhile_not (· ≠ ' ') line
    cases hrest : line.dropWhile (· ≠ ' ') with
    | nil =>
      -- Without a space there is nothing after the scheme.
      rw [hrest, List.append_nil] at happ
      rw [happ, List.drop_eq_nil_of_le (Nat.le_succ _)] at htoken
      exact absurd rfl htoken
    | cons c rest =>
      rw [hrest] at happ hhead
      obtain rfl : c = ' ' := by simpa using hhead
      have hdrop : line.drop ((line.takeWhile (· ≠ ' ')).length + 1) = rest := by
        have h := congrArg (List.drop ((line.takeWhile (· ≠ ' ')).length + 1)) happ
        rw [List.drop_length_add_append] at h
        exact h.symm
      rw [hdrop] at htoken ⊢
      refine ⟨_, rest, happ.symm, fun hmem => ?_, hscheme, htoken, rfl⟩
      have := List.mem_takeWhile_imp hmem
      simp at this
  · rintro ⟨scheme, rest, rfl, hspace, hscheme, htoken, rfl⟩
    rw [takeWhile_ne_append hspace, List.drop_length_add_append]
    simp [hscheme, htoken]

theorem authenticate_eq_ok_iff {secret : String} {now : Instant} {h : Headers} {p : Principal} :
    authenticate secret now h = .ok p ↔ ∃ token claims, h.bearer? = some token ∧
      Token.verify secret now token = .ok claims ∧ p = .ofClaims claims := by
  unfold authenticate
  cases h.bearer? with
  | none => simp
  | some token =>
    cases hv : Token.verify secret now token <;> simp [hv, Functor.map, Except.map, eq_comm]

theorem kind_of_authenticate {secret : String} {now : Instant} {h : Headers} {e : Error}
    (ha : authenticate secret now h = .error e) : e.kind = .unauthorized := by
  unfold authenticate at ha
  cases hb : h.bearer? with
  | none =>
    rw [hb] at ha
    cases ha
    rfl
  | some token =>
    cases hv : Token.verify secret now token with
    | ok claims => simp [hb, hv, Functor.map, Except.map] at ha
    | error e' =>
      simp only [hb, hv] at ha
      cases ha
      exact Token.kind_of_verify hv

/-- The path of a request target lies under the users or the roles. -/
def Protected (target : String) : Prop :=
  ∃ segments, segments? target = some segments ∧
    (["v1", "users"] <+: segments ∨ ["v1", "roles"] <+: segments)

theorem capture?_openResources {segments : List String}
    (h : ["v1", "users"] <+: segments ∨ ["v1", "roles"] <+: segments) :
    ∀ r ∈ openResources, capture? r.path segments = none := by
  rcases h with ⟨rest, rfl⟩ | ⟨rest, rfl⟩ <;> simp [openResources, authPath, capture?]

theorem mem_of_route? {target : String} {m : Match} (h : route? target = some m) :
    ∃ segments, segments? target = some segments ∧ m.resource ∈ resources ∧
      capture? m.resource.path segments = some m.captures := by
  obtain ⟨segments, hs, hm⟩ := Option.bind_eq_some_iff.mp h
  obtain ⟨r, hr, hc⟩ := List.exists_of_findSome?_eq_some hm
  obtain ⟨captures, hcaptures, rfl⟩ := Option.map_eq_some_iff.mp hc
  exact ⟨segments, hs, hr, hcaptures⟩

/-- What is routed under the users or the roles is guarded. -/
theorem guarded_of_protected {target : String} {m : Match} (hp : Protected target)
    (hm : route? target = some m) : m.resource ∈ guardedResources := by
  obtain ⟨segments, hs, hp⟩ := hp
  obtain ⟨segments', hs', hmem, hc⟩ := mem_of_route? hm
  rw [hs] at hs'
  obtain rfl := Option.some.inj hs'
  rcases List.mem_append.mp hmem with hopen | hguarded
  · rw [capture?_openResources hp _ hopen] at hc
    cases hc
  · exact hguarded

theorem guardedResources_guarded : ∀ r ∈ guardedResources, r.guarded = true := by decide

theorem guardedResources_calls : ∀ r ∈ guardedResources, ∀ e ∈ r.methods,
    e.2 ≠ .health ∧ e.2 ≠ .description := by decide

/-- Every endpoint under the users or the roles is a call. -/
theorem exists_call_of_protected {target : String} {m : Match} {method : Method}
    {endpoint : Endpoint} (hp : Protected target) (hm : route? target = some m)
    (he : m.resource.endpoint? method = some endpoint) : ∃ call, endpoint = .call call := by
  obtain ⟨e, hfind, rfl⟩ := Option.map_eq_some_iff.mp he
  have h := guardedResources_calls _ (guarded_of_protected hp hm) e
    (List.mem_of_find?_eq_some hfind)
  cases hc : e.2 with
  | health => exact absurd hc h.1
  | description => exact absurd hc h.2
  | call call => exact ⟨call, rfl⟩

theorem finish_eq (arrival : Arrival) (r : Request) (response : Response) :
    (response.finish arrival r).status = response.status ∧
      (response.finish arrival r).content =
        (if r.method = .head then .empty else response.content) ∧
      ∃ id, (response.finish arrival r).headers = response.headers ++ [("x-request-id", id)] := by
  unfold Response.finish
  split <;> exact ⟨rfl, rfl, _, rfl⟩

/-- On every resource under the users and the roles: with a token that is refused, the response is
that of the refusal, whatever the rest of the request and the store are, and the store stays as it
is; with one that is accepted, the handler is called for whom the first authorization line names. -/
theorem protected_needs_token (c : Settings) (arrival : Arrival) (r : Request) {m : Match}
    {endpoint : Endpoint} (hp : Protected r.target) (hm : route? r.target = some m)
    (he : m.resource.endpoint? r.method = some endpoint) :
    (∀ e, authenticate c.secret arrival.circumstances.clocks.wall r.headers = .error e →
      ∃ response, response.status = e.response.status ∧ response.status = .unauthorized ∧
        response.content = (if r.method = .head then .empty else e.response.content) ∧
        (∃ id, response.headers = e.response.headers ++ [("x-request-id", id)]) ∧
        ∀ db, handle c arrival r db = (response, db)) ∧
    ∀ who call captures,
      place c arrival.circumstances.clocks.wall r = .call who call captures →
      ∃ line scheme rest claims, r.headers.first? "authorization" = some line ∧
        line.toList = scheme ++ ' ' :: rest ∧ ' ' ∉ scheme ∧
        scheme.map Char.toLower = "bearer".toList ∧
        Token.verify c.secret arrival.circumstances.clocks.wall
          (String.ofList (Text.trimmed rest)) = .ok claims ∧
        who = some ⟨claims.id, claims.phone, claims.roles, claims.entitlements⟩ := by
  have hguarded := guardedResources_guarded _ (guarded_of_protected hp hm)
  refine ⟨fun e ha => ?_, fun who call captures hplace => ?_⟩
  · have hplace : place c arrival.circumstances.clocks.wall r = .unauthenticated e none := by
      simp [place, hm, he, caller, hguarded, ha, Functor.map, Except.map]
    have hhandle (db : Database) : handle c arrival r db = (e.response.finish arrival r, db) := by
      simp only [handle, hplace, answerPlaced]
    obtain ⟨hstatus, hcontent, hheaders⟩ := finish_eq arrival r e.response
    refine ⟨_, hstatus, ?_, hcontent, hheaders, hhandle⟩
    rw [hstatus, Error.response_status, kind_of_authenticate ha]
    rfl
  · obtain ⟨call', rfl⟩ := exists_call_of_protected hp hm he
    cases ha : authenticate c.secret arrival.circumstances.clocks.wall r.headers with
    | error e => simp [place, hm, he, caller, hguarded, ha, Functor.map, Except.map] at hplace
    | ok p =>
      obtain ⟨token, claims, hbearer, hverify, rfl⟩ := authenticate_eq_ok_iff.mp ha
      obtain ⟨line, hline, htoken⟩ := Option.bind_eq_some_iff.mp hbearer
      simp only [place, hm, he, caller, hguarded, if_true, ha, Functor.map, Except.map,
        Placement.call.injEq] at hplace
      obtain ⟨scheme, rest, happ, hspace, hscheme, -, rfl⟩ := bearerOfLine?_eq_some_iff.mp htoken
      exact ⟨line, scheme, rest, claims, (Option.filter_eq_some_iff.mp hline).1, happ, hspace,
        hscheme, hverify, hplace.1.symm⟩

/-- Listing the roles without a token. -/
theorem listing_roles_needs_token :
    let c := Settings.ofSecret "secret"
    let arrival : Arrival := ⟨⟨⟨.ofSeconds 0 0, .ofSeconds 0 0⟩, ⟨⟨1⟩, [], []⟩⟩, "1"⟩
    ∃ response, response.status = .unauthorized ∧
      ∀ db, handle c arrival ⟨.get, "/v1/roles", [], ""⟩ db = (response, db) := by
  intro c arrival
  have hp : Protected "/v1/roles" := ⟨["v1", "roles"], by decide, .inr (List.prefix_refl _)⟩
  have hm : route? "/v1/roles" = some ⟨⟨rolePath [], true,
      [(.get, .call .listRoles), (.post, .call .addRole)]⟩, []⟩ := by rfl
  obtain ⟨response, -, hstatus, -, -, hhandle⟩ :=
    (protected_needs_token c arrival ⟨.get, "/v1/roles", [], ""⟩ hp hm (by rfl)).1 _ (by rfl)
  exact ⟨response, hstatus, hhandle⟩

end Http

end Turnstile
