import Turnstile.Proofs.Extent
import Turnstile.Proofs.Rendering
import Turnstile.Token.Access

/-! Payloads. The claims of a payload are read twice, once for their holder and once for what is
registered of them, and both readings find the same expiry. Claims that are written come back. -/
namespace Turnstile.Token

/-! The two readings of a payload. -/

theorem lenient_sameExtent (depth depth' : Nat) :
    Json.SameExtent (lenient depth) (Json.ignored depth') := by
  intro s x y r r' hx hy
  obtain ⟨_, hx⟩ := Json.exists_ok_of_map hx
  exact Json.attempt_sameExtent _ _ hx hy

theorem shallow_sameExtent (depth : Nat) : Json.SameExtent shallow (Json.ignored depth) := by
  intro s x y r r' hx hy
  cases depth with
  | zero => cases hy
  | succ depth =>
    have hwhole := hy
    unfold shallow at hx
    simp only [Json.ignored] at hy
    split at hx
    next rest hs =>
      rw [hs] at hy
      obtain ⟨ys, hy⟩ := Json.exists_ok_of_map hy
      split at hx
      next rest' hrest =>
        cases hx
        rcases Json.items_eq_ok hy with ⟨-, hend, -⟩ | ⟨_, _, _, hstart, -⟩
        · rw [hrest] at hend
          exact (List.cons.inj hend).2
        · simp [Json.itemStart?, hrest] at hstart
      next => cases hx
    next rest hs =>
      rw [hs] at hy
      obtain ⟨ys, hy⟩ := Json.exists_ok_of_map hy
      split at hx
      next rest' hrest =>
        cases hx
        rcases Json.members_eq_ok hy with ⟨-, hend, -⟩ | ⟨_, _, _, _, _, _, _, hstart, -⟩
        · rw [hrest] at hend
          exact (List.cons.inj hend).2
        · simp [Json.memberStart?, hrest] at hstart
      next => cases hx
    next =>
      rw [← Json.ignored_skipSpace] at hwhole
      exact lenient_sameExtent _ _ hx hwhole

theorem scalar_sameExtent (depth : Nat) : Json.SameExtent scalar (Json.ignored depth) := by
  intro s x y r r' hx hy
  unfold scalar at hx
  rw [← Json.ignored_skipSpace] at hy
  split at hx
  next => cases hx
  next => cases hx
  next => exact lenient_sameExtent _ _ hx hy

theorem claims_sameExtent : ∀ f ∈ Claims.fields, ∀ depth,
    Json.SameExtent f.read (Json.ignored depth) := by
  intro f hf depth
  simp only [Claims.fields, List.mem_cons, List.not_mem_nil, or_false] at hf
  rcases hf with rfl | rfl | rfl | rfl | rfl | rfl
  · exact Json.text_sameExtent depth
  · exact Json.text_sameExtent depth
  · exact Json.list_sameExtent Json.text_sameExtent depth
  · exact Json.list_sameExtent Json.text_sameExtent depth
  · exact Json.integer_sameExtent depth
  · exact Json.integer_sameExtent depth

theorem registered_sameExtent : ∀ f ∈ registeredFields, ∀ depth,
    Json.SameExtent f.read (Json.ignored depth) := by
  intro f hf depth
  simp only [registeredFields, List.mem_cons, List.not_mem_nil, or_false] at hf
  rcases hf with rfl | rfl | rfl | rfl | rfl
  · exact Json.integer_sameExtent depth
  · exact shallow_sameExtent depth
  · exact scalar_sameExtent depth
  · exact lenient_sameExtent 127 depth
  · exact lenient_sameExtent 127 depth

/-- The expiry is the only claim that is looked at twice. -/
theorem claims_registered_share : ∀ f ∈ Claims.fields, ∀ f' ∈ registeredFields,
    f.name = f'.name → f.read = f'.read := by
  simp [Claims.fields, registeredFields]

theorem Claims.ofBytes?_eq_some {b : Bytes} {c : Claims} (h : Claims.ofBytes? b = some c) :
    ∃ v rest, Json.record false Claims.fields (Json.wire b) = .ok (v, rest) ∧
      (v.member? "exp").bind Json.Value.integer? = some c.expiresAt := by
  obtain ⟨v, hv, hc⟩ := Option.bind_eq_some_iff.mp h
  obtain ⟨rest, hrest⟩ := Json.exists_of_read hv
  refine ⟨v, rest, hrest, ?_⟩
  simp only [Claims.ofValue?, bind, Option.bind_eq_some_iff, pure, Option.some.injEq] at hc
  obtain ⟨_, -, _, -, _, -, _, -, _, -, _, -, _, -, _, -, _, -, _, -, _, -, e, he, n, hn, rfl⟩ := hc
  exact Option.bind_eq_some_iff.mpr ⟨e, he, hn⟩

theorem Registered.ofBytes?_eq_some {b : Bytes} {r : Registered}
    (h : Registered.ofBytes? b = some r) :
    ∃ v rest, Json.record false registeredFields (Json.wire b) = .ok (v, rest) ∧
      (v.member? "exp").bind Json.Value.integer? = some r.expiresAt := by
  obtain ⟨v, hv, hr⟩ := Option.bind_eq_some_iff.mp h
  obtain ⟨rest, hrest⟩ := Json.exists_of_read hv
  refine ⟨v, rest, hrest, ?_⟩
  simp only [bind, Option.bind_eq_some_iff, pure, Option.some.injEq] at hr
  obtain ⟨e, he, n, hn, rfl⟩ := hr
  exact Option.bind_eq_some_iff.mpr ⟨e, he, hn⟩

namespace Decoding

/-- Both readings of a payload find the same expiry. -/
def Coherent (d : Decoding) : Prop :=
  ∀ ⦃b : Bytes⦄ ⦃c : Claims⦄ ⦃r : Registered⦄, d.claims? b = some c → d.registered? b = some r →
    c.expiresAt = r.expiresAt

/-- A list form satisfies only one of the two readings, since its first item is a text to the one and
a number to the other. -/
theorem json_coherent : json.Coherent := by
  intro b c r hc hr
  obtain ⟨v, rest, hv, hexp⟩ := Claims.ofBytes?_eq_some hc
  obtain ⟨v', rest', hv', hexp'⟩ := Registered.ofBytes?_eq_some hr
  obtain ⟨t, ms, rfl, ⟨hs, hms⟩ | ⟨hs, hms⟩⟩ := Json.record_eq_ok hv <;>
    obtain ⟨t', ms', rfl, ⟨hs', hms'⟩ | ⟨hs', hms'⟩⟩ := Json.record_eq_ok hv' <;>
    rw [hs] at hs' <;> cases hs'
  · have hmember : (Json.Value.record ms).member? "exp" = (Json.Value.record ms').member? "exp" :=
      Json.member?_eq_of_share claims_sameExtent registered_sameExtent claims_registered_share
        (by simp [Claims.fields]) (by simp [registeredFields]) hms hms'
    rw [hmember, hexp'] at hexp
    exact (Option.some.inj hexp).symm
  · obtain ⟨_, _, htext⟩ := Json.fieldItems_cons_eq_ok (by decide) hms
    obtain ⟨_, _, hinteger⟩ := Json.fieldItems_cons_eq_ok (by decide) hms'
    obtain ⟨_, _, hquote, -⟩ := Json.text_eq_ok htext
    obtain ⟨⟨c, rest, hdigit, hc⟩, -⟩ := Json.integer_eq_ok hinteger
    rw [hquote] at hdigit
    cases hdigit
    rcases hc with hc | hc <;> exact absurd hc (by decide)

end Decoding

/-! Claims that are written. -/

/-- The times of the claims are integers of 64 bits. -/
structure Claims.Bounded (c : Claims) : Prop where
  issuedAt : -9223372036854775808 ≤ c.issuedAt ∧ c.issuedAt ≤ 9223372036854775807
  expiresAt : -9223372036854775808 ≤ c.expiresAt ∧ c.expiresAt ≤ 9223372036854775807

open Json in
theorem Claims.takes {c : Claims} (h : c.Bounded) :
    Takes (record false fields) c.toValue c.toValue := by
  refine record_takes ?_ (by simp [fields])
  refine .cons (fieldReader_of_find? (f := fields[0]) rfl rfl) (text_takes _) ?_
  refine .cons (fieldReader_of_find? (f := fields[1]) rfl rfl) (text_takes _) ?_
  refine .cons (fieldReader_of_find? (f := fields[2]) rfl rfl) (texts_takes _) ?_
  refine .cons (fieldReader_of_find? (f := fields[3]) rfl rfl) (texts_takes _) ?_
  refine .cons (fieldReader_of_find? (f := fields[4]) rfl rfl) (integer_takes h.issuedAt) ?_
  refine .cons (fieldReader_of_find? (f := fields[5]) rfl rfl) (integer_takes h.expiresAt) ?_
  exact .nil _

/-- Claims are read back from what they are written as. -/
theorem Claims.ofBytes?_render {c : Claims} (h : c.Bounded) :
    ofBytes? (.ofText (Json.render c.toValue)) = some c := by
  rw [ofBytes?, (Claims.takes h).read]
  simp [Except.toOption, ofValue?, toValue, Json.Value.member?, Json.Value.text?,
    Json.Value.integer?, Uuid.parse?_hyphenated]

open Json in
/-- The second look at claims passes over all but the expiry. -/
theorem registered_takes {c : Claims} (h : c.Bounded) :
    Takes (record false registeredFields) c.toValue
      (.record [("id", .null), ("phone", .null), ("roles", .null), ("entitlements", .null),
        ("iat", .null), ("exp", .integer c.expiresAt)]) := by
  have htext (s : String) := ignored_takes fun depth => ignored_takes_text (depth + 1) s
  have htexts (xs : List String) := ignored_takes fun depth => ignored_takes_texts depth xs
  have hinteger (n : Int) := ignored_takes fun depth => ignored_takes_integer (depth + 1) n
  refine record_takes ?_ (by simp [registeredFields])
  refine .cons (fieldReader_of_find?_eq_none rfl) (htext _) ?_
  refine .cons (fieldReader_of_find?_eq_none rfl) (htext _) ?_
  refine .cons (fieldReader_of_find?_eq_none rfl) (htexts _) ?_
  refine .cons (fieldReader_of_find?_eq_none rfl) (htexts _) ?_
  refine .cons (fieldReader_of_find?_eq_none rfl) (hinteger _) ?_
  refine .cons (fieldReader_of_find? (f := registeredFields[0]) rfl rfl)
    (integer_takes h.expiresAt) ?_
  exact .nil _

theorem Registered.ofBytes?_render {c : Claims} (h : c.Bounded) :
    ofBytes? (.ofText (Json.render c.toValue)) = some ⟨c.expiresAt, false⟩ := by
  rw [ofBytes?, (registered_takes h).read]
  simp [Except.toOption, Json.Value.member?, Json.Value.integer?]

end Turnstile.Token
