import Mathlib.Data.List.DropRight
import Turnstile.Json.Reader
import Turnstile.Proofs.Outcomes

/-! How far readers read. Two readers that both take a value from the same text stop at the same
place, even where one of them only passes over what the other looks at. -/
namespace Turnstile.Json

variable {α β : Type}

/-- Whenever both read a text, they stop at the same place. -/
def SameExtent (f : ReaderOf α) (g : ReaderOf β) : Prop :=
  ∀ ⦃s x y r r'⦄, f s = .ok (x, r) → g s = .ok (y, r') → r = r'

namespace SameExtent

variable {f : ReaderOf α} {g : ReaderOf β}

theorem refl (f : ReaderOf α) : SameExtent f f := by
  intro s x y r r' hx hy
  rw [hx] at hy
  cases hy
  rfl

theorem symm (h : SameExtent f g) : SameExtent g f :=
  fun _ _ _ _ _ hx hy => (h hy hx).symm

end SameExtent

/-! Texts. Whoever reads a text takes it to pieces first. -/

theorem exists_of_string {s r : List Char} {t : String} (h : string s = .ok (t, r)) :
    ∃ ps, pieces s = .ok (ps, r) := by
  obtain ⟨⟨ps, rest⟩, hps, h⟩ := ok_of_bind h
  dsimp only at h
  split at h
  next =>
    cases h
    exact ⟨ps, hps⟩
  next => cases h

theorem exists_of_skipString {s r : List Char} {t : String} (h : skipString s = .ok (t, r)) :
    ∃ ps, pieces s = .ok (ps, r) := by
  obtain ⟨⟨ps, rest⟩, hps, h⟩ := ok_of_map h
  cases h
  exact ⟨ps, hps⟩

theorem pieces_sameExtent : SameExtent pieces skipString := by
  intro s x y r r' hx hy
  obtain ⟨ps, hps⟩ := exists_of_skipString hy
  exact SameExtent.refl pieces hx hps

theorem string_sameExtent : SameExtent string skipString := by
  intro s x y r r' hx hy
  obtain ⟨ps, hps⟩ := exists_of_string hx
  exact pieces_sameExtent hps hy

/-! Lists. -/

theorem head?_ne_of_ne_cons {c : Char} {s : List Char} (h : ∀ rest, s ≠ c :: rest) :
    s.head? ≠ some c := by
  intro hc
  obtain ⟨rest, hrest⟩ := List.head?_eq_some_iff.mp hc
  exact h rest hrest

/-- Where the next item starts, unless the list ends first. -/
def itemStart? (first : Bool) (s : List Char) : Option (List Char) :=
  if (skipSpace s).head? = some ']' then none
  else if first then some (skipSpace s)
  else
    match skipSpace s with
    | ',' :: rest => if (skipSpace rest).head? = some ']' then none else some (skipSpace rest)
    | _ => none

/-- A list that is read ends here or goes on with an item. -/
theorem items_eq_ok {read : ReaderOf α} {fuel : Nat} {first : Bool} {acc xs : List α}
    {s r : List Char} (h : items read (fuel + 1) first acc s = .ok (xs, r)) :
    (itemStart? first s = none ∧ skipSpace s = ']' :: r ∧ xs = acc.reverse) ∨
    ∃ start v rest, itemStart? first s = some start ∧ read start = .ok (v, rest) ∧
      items read fuel false (v :: acc) rest = .ok (xs, r) := by
  simp only [items] at h
  split at h
  next rest hs =>
    cases h
    exact .inl ⟨by simp [itemStart?, hs], hs, rfl⟩
  next hne =>
    have hopen := head?_ne_of_ne_cons hne
    refine .inr ?_
    split at h
    next hfirst =>
      split at h
      next v rest hv =>
        exact ⟨_, v, rest, by rw [itemStart?, if_neg hopen, if_pos hfirst], hv, h⟩
      next => cases h
    next hfirst =>
      split at h
      next rest hs =>
        split at h
        next => cases h
        next hne =>
          split at h
          next v rest' hv =>
            refine ⟨_, v, rest', ?_, hv, h⟩
            rw [itemStart?, if_neg hopen, if_neg hfirst, hs]
            exact if_neg (head?_ne_of_ne_cons hne)
          next => cases h
      next => cases h

theorem items_sameExtent {read : ReaderOf α} {read' : ReaderOf β} (h : SameExtent read read')
    (fuel fuel' : Nat) (first : Bool) (acc : List α) (acc' : List β) :
    SameExtent (items read fuel first acc) (items read' fuel' first acc') := by
  induction fuel generalizing fuel' first acc acc' with
  | zero =>
    intro s x y r r' hx hy
    cases hx
  | succ fuel ih =>
    intro s x y r r' hx hy
    cases fuel' with
    | zero => cases hy
    | succ fuel' =>
      rcases items_eq_ok hx with ⟨hend, hs, -⟩ | ⟨start, v, rest, hstart, hv, hx⟩ <;>
        rcases items_eq_ok hy with ⟨hend', hs', -⟩ | ⟨start', v', rest', hstart', hv', hy⟩
      · rw [hs] at hs'
        exact (List.cons.inj hs').2
      · rw [hend] at hstart'
        cases hstart'
      · rw [hend'] at hstart
        cases hstart
      · rw [hstart] at hstart'
        obtain rfl := Option.some.inj hstart'
        obtain rfl := h hv hv'
        exact ih _ _ _ _ hx hy

/-! Records. -/

/-- What comes next in a record, past the comma unless it is the first. -/
def separated? (first : Bool) (s : List Char) : Option (List Char) :=
  if first then some (skipSpace s)
  else
    match skipSpace s with
    | ',' :: rest => some (skipSpace rest)
    | _ => none

/-- Where the next name starts, after its quote, unless the record ends first. -/
def memberStart? (first : Bool) (s : List Char) : Option (List Char) :=
  if (skipSpace s).head? = some '}' then none
  else
    match separated? first s with
    | some ('"' :: rest) => some rest
    | _ => none

/-- A record that is read ends here or goes on with a name, a colon and a value. -/
theorem members_eq_ok {key : ReaderOf String} {choose : Members α} {fuel : Nat} {first : Bool}
    {acc ms : List (String × α)} {s r : List Char}
    (h : members key choose (fuel + 1) first acc s = .ok (ms, r)) :
    (memberStart? first s = none ∧ skipSpace s = '}' :: r ∧ ms = acc.reverse) ∨
    ∃ start k rest read value v rest', memberStart? first s = some start ∧
      key start = .ok (k, rest) ∧ choose acc k = .ok read ∧ colon rest = .ok value ∧
      read value = .ok (v, rest') ∧
      members key choose fuel false ((k, v) :: acc) rest' = .ok (ms, r) := by
  simp only [members] at h
  unfold memberStart?
  split at h
  next rest hs =>
    cases h
    exact .inl ⟨by simp [hs], hs, rfl⟩
  next hne =>
    refine .inr ?_
    rw [if_neg (head?_ne_of_ne_cons hne)]
    split at h
    next rest hstart =>
      have hsep : separated? first s = some ('"' :: rest) := hstart
      rw [hsep]
      split at h
      next m rest' hone =>
        obtain ⟨⟨k, t⟩, hk, hone⟩ := ok_of_bind hone
        obtain ⟨read, hc, hone⟩ := ok_of_bind hone
        obtain ⟨value, hcolon, hone⟩ := ok_of_bind hone
        obtain ⟨⟨v, u⟩, hv, hone⟩ := ok_of_bind hone
        cases hone
        exact ⟨rest, k, t, read, value, v, _, rfl, hk, hc, hcolon, hv, h⟩
      next => cases h
    next => cases h

/-- Two readings of one record in step: a relation between the members so far that every pair of
values under one place keeps holds of the members in the end, and the readings end together. -/
theorem members_simulation {key key' : ReaderOf String} {choose : Members α} {choose' : Members β}
    {R : List (String × α) → List (String × β) → Prop} (hkey : SameExtent key key')
    (hvalue : ∀ {acc acc' start k k' rest read read'}, R acc acc' → key start = .ok (k, rest) →
      key' start = .ok (k', rest) → choose acc k = .ok read → choose' acc' k' = .ok read' →
      SameExtent read read' ∧ ∀ {s v v' r}, read s = .ok (v, r) → read' s = .ok (v', r) →
        R ((k, v) :: acc) ((k', v') :: acc'))
    (fuel fuel' : Nat) {first : Bool} {acc ms : List (String × α)} {acc' ms' : List (String × β)}
    {s r r' : List Char} (hR : R acc acc') (h : members key choose fuel first acc s = .ok (ms, r))
    (h' : members key' choose' fuel' first acc' s = .ok (ms', r')) :
    r = r' ∧ R ms.reverse ms'.reverse := by
  induction fuel generalizing fuel' first acc acc' s with
  | zero => cases h
  | succ fuel ih =>
    cases fuel' with
    | zero => cases h'
    | succ fuel' =>
      rcases members_eq_ok h with
          ⟨hend, hs, rfl⟩ | ⟨start, k, rest, read, value, v, t, hstart, hk, hc, hcolon, hv, h⟩ <;>
        rcases members_eq_ok h' with
          ⟨hend', hs', rfl⟩ | ⟨start', k', rest', read', value', v', t', hstart', hk', hc', hcolon',
            hv', h'⟩
      · rw [hs] at hs'
        simp only [List.reverse_reverse]
        exact ⟨(List.cons.inj hs').2, hR⟩
      · rw [hend] at hstart'
        cases hstart'
      · rw [hend'] at hstart
        cases hstart
      · rw [hstart] at hstart'
        obtain rfl := Option.some.inj hstart'
        obtain rfl := hkey hk hk'
        rw [hcolon] at hcolon'
        obtain rfl := Except.ok.inj hcolon'
        obtain ⟨hextent, hnext⟩ := hvalue hR hk hk' hc hc'
        obtain rfl := hextent hv hv'
        exact ih fuel' (hnext hv hv') h h'

/-! Values. -/

theorem literal_sameExtent (word : List Char) (v v' : Value) :
    SameExtent (literal word v) (literal word v') := by
  intro s x y r r' hx hy
  unfold literal at hx hy
  split at hx
  next hw =>
    rw [if_pos hw] at hy
    cases hx
    cases hy
    rfl
  next => cases hx

theorem exists_ok_of_map {e : Except Fault (α × List Char)} {f : α × List Char → β} {y : β}
    {r : List Char} (h : (e.map fun p => (f p, p.2)) = .ok (y, r)) : ∃ x, e = .ok (x, r) := by
  obtain ⟨⟨x, t⟩, he, hy⟩ := ok_of_map h
  cases hy
  exact ⟨x, he⟩

theorem ignored_skipSpace (depth : Nat) (s : List Char) :
    ignored depth (skipSpace s) = ignored depth s := by
  cases depth with
  | zero => rfl
  | succ depth =>
    have hs : skipSpace (skipSpace s) = skipSpace s := List.dropWhile_idempotent _ _
    simp only [ignored, hs]

theorem number_eq_ok {s r : List Char} {v : Value} (h : number s = .ok (v, r)) :
    ∃ m, numeral? (unsigned s) = some (m, r) := by
  unfold number at h
  split at h
  next m rest hm =>
    split at h
    next => cases h
    next =>
      cases h
      exact ⟨m, hm⟩
  next => cases h

/-- Where a number starts, a value that nobody looks at is that number. -/
theorem ignored_eq_skipNumber {depth : Nat} {s r : List Char} {m : Numeral}
    (hm : numeral? (unsigned (skipSpace s)) = some (m, r)) :
    ignored (depth + 1) s = .ok (.null, r) := by
  simp only [ignored]
  split
  next hs =>
    rw [hs] at hm
    cases hm
  -- None of the characters that start anything else starts a number.
  iterate 6 next hs => simp [hs, unsigned, numeral?, wholePart?] at hm
  next => simp only [skipNumber, hm]

theorem numeral_sameExtent {depth : Nat} {s r r' : List Char} {m : Numeral} {y : Value}
    (hm : numeral? (unsigned (skipSpace s)) = some (m, r)) (hy : ignored depth s = .ok (y, r')) :
    r = r' := by
  cases depth with
  | zero => cases hy
  | succ depth =>
    rw [ignored_eq_skipNumber hm] at hy
    cases hy
    rfl

theorem members_sameExtent {read : ReaderOf α} {read' : ReaderOf β} (h : SameExtent read read')
    (fuel fuel' : Nat) (first : Bool) (acc : List (String × α)) (acc' : List (String × β)) :
    SameExtent (members string (fun _ _ => .ok read) fuel first acc)
      (members skipString (fun _ _ => .ok read') fuel' first acc') := by
  intro s x y r r' hx hy
  refine (members_simulation (R := fun _ _ => True) string_sameExtent ?_ _ _ trivial hx hy).1
  intro _ _ _ _ _ _ _ _ _ _ _ hchosen hchosen'
  cases hchosen
  cases hchosen'
  exact ⟨h, fun _ _ => trivial⟩

theorem any_sameExtent (depth depth' : Nat) : SameExtent (any depth) (ignored depth') := by
  induction depth generalizing depth' with
  | zero =>
    intro s x y r r' hx hy
    cases hx
  | succ depth ih =>
    intro s x y r r' hx hy
    cases depth' with
    | zero => cases hy
    | succ depth' =>
      have hwhole := hy
      simp only [any] at hx
      simp only [ignored] at hy
      split at hx
      next => cases hx
      next rest hs =>
        rw [hs] at hy
        exact literal_sameExtent _ _ _ hx hy
      next rest hs =>
        rw [hs] at hy
        exact literal_sameExtent _ _ _ hx hy
      next rest hs =>
        rw [hs] at hy
        exact literal_sameExtent _ _ _ hx hy
      next rest hs =>
        rw [hs] at hy
        obtain ⟨_, hx⟩ := exists_ok_of_map hx
        obtain ⟨_, hy⟩ := exists_ok_of_map hy
        exact string_sameExtent hx hy
      next rest hs =>
        rw [hs] at hy
        obtain ⟨_, hx⟩ := exists_ok_of_map hx
        obtain ⟨_, hy⟩ := exists_ok_of_map hy
        exact items_sameExtent (ih _) _ _ _ _ _ hx hy
      next rest hs =>
        rw [hs] at hy
        obtain ⟨_, hx⟩ := exists_ok_of_map hx
        obtain ⟨_, hy⟩ := exists_ok_of_map hy
        exact members_sameExtent (ih _) _ _ _ _ _ hx hy
      next =>
        obtain ⟨m, hm⟩ := number_eq_ok hx
        exact numeral_sameExtent hm hwhole

theorem attempt_sameExtent (depth depth' : Nat) : SameExtent (attempt depth) (ignored depth') := by
  induction depth generalizing depth' with
  | zero =>
    intro s x y r r' hx hy
    cases hx
  | succ depth ih =>
    intro s x y r r' hx hy
    cases depth' with
    | zero => cases hy
    | succ depth' =>
      have hwhole := hy
      simp only [attempt] at hx
      simp only [ignored] at hy
      split at hx
      next rest hs =>
        rw [hs] at hy
        obtain ⟨_, hy⟩ := exists_ok_of_map hy
        obtain ⟨⟨ps, t⟩, hps, hx⟩ := ok_of_bind hx
        dsimp only at hx
        split at hx
        next =>
          cases hx
          exact pieces_sameExtent hps hy
        next => cases hx
      next rest hs =>
        rw [hs] at hy
        obtain ⟨_, hy⟩ := exists_ok_of_map hy
        obtain ⟨⟨vs, t⟩, hvs, hx⟩ := ok_of_bind hx
        obtain ⟨_, -, hx⟩ := ok_of_bind hx
        cases hx
        exact items_sameExtent (ih _) _ _ _ _ _ hvs hy
      next rest hs =>
        rw [hs] at hy
        obtain ⟨_, hy⟩ := exists_ok_of_map hy
        obtain ⟨⟨ms, t⟩, hms, hx⟩ := ok_of_bind hx
        obtain ⟨_, -, hx⟩ := ok_of_bind hx
        cases hx
        exact members_sameExtent (ih _) _ _ _ _ _ hms hy
      next =>
        split at hx
        next m rest hm =>
          -- Whatever becomes of a number, it ends where its digits do.
          have hr : rest = r := by
            split at hx
            next =>
              cases hx
              rfl
            next =>
              split at hx
              next => cases hx
              next =>
                cases hx
                rfl
          exact hr ▸ numeral_sameExtent hm hwhole
        next =>
          obtain ⟨_, hx⟩ := exists_ok_of_map hx
          rw [← ignored_skipSpace] at hwhole
          exact any_sameExtent _ _ hx hwhole

theorem text_eq_ok {s r : List Char} {v : Value} (h : text s = .ok (v, r)) :
    ∃ rest t, skipSpace s = '"' :: rest ∧ string rest = .ok (t, r) := by
  unfold text at h
  split at h
  next rest hs =>
    obtain ⟨⟨t, u⟩, hstring, h⟩ := ok_of_bind h
    cases h
    exact ⟨rest, t, hs, hstring⟩
  next => cases h

theorem text_sameExtent (depth : Nat) : SameExtent text (ignored depth) := by
  intro s x y r r' hx hy
  cases depth with
  | zero => cases hy
  | succ depth =>
    obtain ⟨rest, t, hs, hstring⟩ := text_eq_ok hx
    simp only [ignored] at hy
    rw [hs] at hy
    obtain ⟨t', hy⟩ := exists_ok_of_map hy
    exact string_sameExtent hstring hy

theorem list_sameExtent {read : Reader} (h : ∀ depth, SameExtent read (ignored depth))
    (depth : Nat) : SameExtent (list read) (ignored depth) := by
  intro s x y r r' hx hy
  cases depth with
  | zero => cases hy
  | succ depth =>
    unfold list at hx
    simp only [ignored] at hy
    split at hx
    next rest hs =>
      rw [hs] at hy
      obtain ⟨ys, hy⟩ := exists_ok_of_map hy
      obtain ⟨⟨xs, u⟩, hitems, hx⟩ := ok_of_bind hx
      cases hx
      exact items_sameExtent (h depth) _ _ _ _ _ hitems hy
    next => cases hx

/-- An integer is a number that starts at its first digit or sign. -/
theorem integer_eq_ok {s r : List Char} {v : Value} (h : integer s = .ok (v, r)) :
    (∃ c rest, skipSpace s = c :: rest ∧ (c = '-' ∨ c.isDigit = true)) ∧
      ∃ w, number (skipSpace s) = .ok (w, r) := by
  unfold integer at h
  split at h
  next => cases h
  next c rest hs =>
    rw [hs]
    split at h
    next hc =>
      refine ⟨⟨c, rest, rfl, hc⟩, ?_⟩
      obtain ⟨⟨w, u⟩, hn, h⟩ := ok_of_bind h
      split at h
      next n rest' hw =>
        cases hw
        split at h
        next =>
          cases h
          exact ⟨_, hn⟩
        next => cases h
      next => cases h
    next => cases h

theorem integer_sameExtent (depth : Nat) : SameExtent integer (ignored depth) := by
  intro s x y r r' hx hy
  obtain ⟨-, w, hn⟩ := integer_eq_ok hx
  obtain ⟨m, hm⟩ := number_eq_ok hn
  exact numeral_sameExtent hm hy

theorem exists_of_read {read : Reader} {s : List Char} {v : Value}
    (h : (Json.read read s).toOption = some v) : ∃ rest, read s = .ok (v, rest) := by
  have hread : Json.read read s = .ok v := by
    cases hr : Json.read read s <;> simp_all [Except.toOption]
  obtain ⟨⟨w, rest⟩, hw, hread⟩ := ok_of_bind hread
  dsimp only at hread
  split at hread
  next =>
    cases hread
    exact ⟨rest, hw⟩
  next => cases hread

/-! Records read for their fields. -/

/-- A name that is read is a field's, read as that, or no field's and passed over. -/
theorem fieldReader_eq_ok {fields : List Field} {seen : List (String × Value)} {name : String}
    {read : Reader} (h : fieldReader false fields seen name = .ok read) :
    (∃ f ∈ fields, f.name = name ∧ read = f.read) ∨
      (∀ f ∈ fields, f.name ≠ name) ∧ read = fun s => ignored (s.length + 1) s := by
  unfold fieldReader at h
  split at h
  next f hf =>
    split at h
    next => cases h
    next =>
      refine .inl ⟨f, List.mem_of_find?_eq_some hf, ?_, (Except.ok.inj h).symm⟩
      have := List.find?_some hf
      exact of_decide_eq_true this
  next hnone =>
    refine .inr ⟨fun f hf hname => ?_, (Except.ok.inj h).symm⟩
    have := List.find?_eq_none.mp hnone f hf
    simp [hname] at this

/-- A record is read from a brace and its members, or from a bracket and its fields in order. -/
theorem record_eq_ok {strict : Bool} {fields : List Field} {s r : List Char} {v : Value}
    (h : record strict fields s = .ok (v, r)) :
    ∃ rest ms, v = .record ms ∧
      (skipSpace s = '{' :: rest ∧
          members string (fieldReader strict fields) (rest.length + 1) true [] rest = .ok (ms, r) ∨
        skipSpace s = '[' :: rest ∧ fieldItems fields true [] rest = .ok (ms, r)) := by
  unfold record at h
  split at h
  next rest hs =>
    obtain ⟨⟨ms, u⟩, hm, h⟩ := ok_of_bind h
    dsimp only at h
    split at h
    next =>
      cases h
      exact ⟨rest, ms, rfl, .inl ⟨hs, hm⟩⟩
    next => cases h
  next rest hs =>
    obtain ⟨⟨ms, u⟩, hi, h⟩ := ok_of_bind h
    cases h
    exact ⟨rest, ms, rfl, .inr ⟨hs, hi⟩⟩
  next => cases h

/-- The first field of a list form, unless it may be left out, is there. -/
theorem fieldItems_cons_eq_ok {f : Field} {fs : List Field} {acc ms : List (String × Value)}
    {s r : List Char} (hf : f.presence ≠ .defaulted)
    (h : fieldItems (f :: fs) true acc s = .ok (ms, r)) :
    ∃ v rest, f.read (skipSpace s) = .ok (v, rest) := by
  unfold fieldItems at h
  split at h
  next =>
    rw [if_neg hf] at h
    cases h
  next =>
    simp only [if_true] at h
    obtain ⟨⟨v, rest⟩, hv, -⟩ := ok_of_bind h
    exact ⟨v, rest, hv⟩

/-- What two sets of fields share, both read alike from one record, whatever else it holds. -/
theorem member?_eq_of_share {fields fields' : List Field} {name : String}
    (hfields : ∀ f ∈ fields, ∀ depth, SameExtent f.read (ignored depth))
    (hfields' : ∀ f ∈ fields', ∀ depth, SameExtent f.read (ignored depth))
    (hshare : ∀ f ∈ fields, ∀ f' ∈ fields', f.name = f'.name → f.read = f'.read)
    (hname : ∃ f ∈ fields, f.name = name) (hname' : ∃ f ∈ fields', f.name = name)
    {fuel fuel' : Nat} {first : Bool} {ms ms' : List (String × Value)} {s r r' : List Char}
    (h : members string (fieldReader false fields) fuel first [] s = .ok (ms, r))
    (h' : members string (fieldReader false fields') fuel' first [] s = .ok (ms', r')) :
    (Value.record ms).member? name = (Value.record ms').member? name := by
  let R (acc acc' : List (String × Value)) : Prop :=
    acc.find? (·.1 = name) = acc'.find? (·.1 = name)
  have hR : R ms.reverse ms'.reverse := by
    refine (members_simulation (R := R) (.refl string) ?_ fuel fuel' rfl h h').2
    intro acc acc' start k k' rest read read' hacc hk hk' hc hc'
    rw [hk] at hk'
    cases hk'
    -- A value under the name in question has to be the same; under any other it does not matter.
    have hcons {v v' : Value} (hv : k = name → v = v') : R ((k, v) :: acc) ((k, v') :: acc') := by
      simp only [R, List.find?_cons]
      by_cases hk : k = name
      · simp [hk, hv hk]
      · simpa [hk] using hacc
    rcases fieldReader_eq_ok hc with ⟨f, hf, hkey, rfl⟩ | ⟨hnone, rfl⟩ <;>
      rcases fieldReader_eq_ok hc' with ⟨f', hf', hkey', rfl⟩ | ⟨hnone', rfl⟩
    · have hread := hshare f hf f' hf' (hkey.trans hkey'.symm)
      rw [hread]
      refine ⟨.refl _, fun hv hv' => hcons fun _ => ?_⟩
      rw [hv] at hv'
      exact (Prod.mk.inj (Except.ok.inj hv')).1
    · refine ⟨fun _ _ _ _ _ hx hy => hfields f hf _ hx hy, fun _ _ => hcons ?_⟩
      rintro rfl
      obtain ⟨f', hf', hkey'⟩ := hname'
      exact absurd hkey' (hnone' f' hf')
    · refine ⟨fun _ _ _ _ _ hx hy => (hfields' f' hf' _ hy hx).symm, fun _ _ => hcons ?_⟩
      rintro rfl
      obtain ⟨f, hf, hkey⟩ := hname
      exact absurd hkey (hnone f hf)
    · refine ⟨.refl _, fun _ _ => hcons ?_⟩
      rintro rfl
      obtain ⟨f, hf, hkey⟩ := hname
      exact absurd hkey (hnone f hf)
  simp only [Value.member?]
  rw [hR]

end Turnstile.Json
