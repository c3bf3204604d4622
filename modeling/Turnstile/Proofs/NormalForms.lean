import Turnstile.Proofs.Compactness
import Turnstile.Proofs.RightsRequests
import Turnstile.Proofs.Splitting

/-! Values in the form that a check leaves them in. Trimmed text and compact rights are taken for
what they are when they are asked for again, so a role that was accepted once is accepted as it
is. -/
namespace Turnstile

namespace Text

/-- The text neither begins nor ends with white space. -/
def Neat (s : String) : Prop :=
  (∀ c ∈ s.toList.head?, isBlank c = false) ∧ ∀ c ∈ s.toList.getLast?, isBlank c = false

theorem neat_trim (s : String) : Neat (trim s) := by
  unfold Neat
  rw [toList_trim, trimmed, List.head?_reverse, List.getLast?_reverse]
  constructor
  · intro c hc
    -- What is dropped at the end leaves the first character, which is not blank already.
    obtain ⟨dropped, hdropped⟩ :=
      List.dropWhile_suffix (l := (s.toList.dropWhile isBlank).reverse) isBlank
    apply head?_dropWhile (s := s.toList)
    rw [← List.getLast?_reverse, ← hdropped, List.getLast?_append, hc]
    rfl
  · intro c hc
    exact head?_dropWhile hc

theorem trim_of_neat {s : String} (h : Neat s) : trim s = s := by
  obtain ⟨hfirst, hlast⟩ := h
  have hreverse : s.toList.reverse.dropWhile isBlank = s.toList.reverse := by
    apply dropWhile_of_head?
    intro c hc
    rw [List.head?_reverse] at hc
    exact hlast c hc
  rw [trim, trimmed, dropWhile_of_head? hfirst, hreverse, List.reverse_reverse,
    String.ofList_toList]

theorem Neat.exists_not_blank {s : String} (h : Neat s) (hs : s ≠ "") :
    ∃ c ∈ s.toList, isBlank c = false := by
  cases hl : s.toList with
  | nil => exact absurd (String.toList_eq_nil_iff.mp hl) hs
  | cons c l => exact ⟨c, List.mem_cons_self, h.1 c (by rw [hl]; rfl)⟩

end Text

/-! Rights read back from the names they are written with. -/

theorem PermissionSet.ofList_toList (ps : PermissionSet) : ofList ps.toList = ps := by
  refine ext_contains fun p => ?_
  rw [contains_ofList, Bool.eq_iff_iff, List.contains_iff_mem, mem_toList]

theorem PermissionSet.named_names (ps : PermissionSet) : named ps.names = ps := by
  rw [names, named_map_name, ofList_toList]

theorem PermissionSet.forall_mem_names (ps : PermissionSet) : ∀ n ∈ ps.names, Permission.Named n :=
  List.map_subset _ fun p _ => p.mem_all

namespace Rights

variable {r : Rights}

theorem mem_namedEntries {e : String × List String} :
    e ∈ r.namedEntries ↔ ∃ s ps, r.get? s = some ps ∧ e = (s.name, ps.names) := by
  simp only [namedEntries, List.mem_map, Prod.exists, mem_entries, eq_comm]

/-- No section is written twice. -/
theorem pairwise_namedEntries (r : Rights) :
    r.namedEntries.Pairwise fun a b => ¬ compare a.1 b.1 = .eq := by
  have hsections : Section.all.Pairwise fun s t => s ≠ t := Section.nodup_all
  unfold namedEntries entries
  rw [List.pairwise_map, List.pairwise_filterMap]
  refine hsections.imp fun {s t} hne a ha b hb heq => ?_
  obtain ⟨_, -, rfl⟩ := Option.map_eq_some_iff.mp ha
  obtain ⟨_, -, rfl⟩ := Option.map_eq_some_iff.mp hb
  exact hne (Section.name_injective (Std.LawfulEqCmp.eq_of_compare heq))

/-- What is asked for under a name is what the section of that name has. -/
theorem getElem?_toRequest_eq_some_iff {name : String} {names : List String} :
    r.toRequest[name]? = some names ↔
      ∃ s ps, r.get? s = some ps ∧ name = s.name ∧ names = ps.names := by
  constructor
  · intro h
    by_cases hmem : name ∈ r.namedEntries.map Prod.fst
    · obtain ⟨e, he, rfl⟩ := List.mem_map.mp hmem
      have hget : r.toRequest[e.1]? = some e.2 := Std.ExtTreeMap.getElem?_ofList_of_mem
        Std.ReflCmp.compare_self r.pairwise_namedEntries he
      obtain ⟨s, ps, hs, rfl⟩ := mem_namedEntries.mp he
      exact ⟨s, ps, hs, rfl, Option.some.inj (h.symm.trans hget)⟩
    · have hnone : r.toRequest[name]? = none :=
        Std.ExtTreeMap.getElem?_ofList_of_contains_eq_false (by simpa using hmem)
      rw [h] at hnone
      cases hnone
  · rintro ⟨s, ps, hs, rfl, rfl⟩
    exact Std.ExtTreeMap.getElem?_ofList_of_mem Std.ReflCmp.compare_self r.pairwise_namedEntries
      (mem_namedEntries.mpr ⟨s, ps, hs, rfl⟩)

theorem getElem?_toRequest (s : Section) :
    r.toRequest[s.name]? = (r.get? s).map PermissionSet.names := by
  refine Option.ext fun names => ?_
  rw [getElem?_toRequest_eq_some_iff, Option.map_eq_some_iff]
  constructor
  · rintro ⟨t, ps, hps, hname, rfl⟩
    exact ⟨ps, Section.name_injective hname ▸ hps, rfl⟩
  · rintro ⟨ps, hps, rfl⟩
    exact ⟨s, ps, hps, rfl, rfl⟩

/-- Rights are accepted as they are, sections without permissions included. -/
theorem parse_toRequest (h : r.isEmpty = false) : parse r.toRequest = .ok r := by
  refine parse_eq_ok_iff.mpr ⟨⟨?_, fun name names hnames => ?_⟩, fun s => ?_⟩
  · obtain ⟨⟨s, ps⟩, he⟩ := List.isEmpty_eq_false_iff_exists_mem.mp h
    rintro hempty
    have hget := (getElem?_toRequest (r := r) s).trans (congrArg _ (mem_entries.mp he))
    rw [hempty, Std.ExtTreeMap.getElem?_empty] at hget
    cases hget
  · obtain ⟨s, ps, -, rfl, rfl⟩ := getElem?_toRequest_eq_some_iff.mp hnames
    exact ⟨Section.named_iff.mpr ⟨s, rfl⟩, ps.forall_mem_names⟩
  · rw [getElem?_toRequest]
    cases r.get? s <;> simp [PermissionSet.named_names]

theorem Compact.compact_eq (h : r.Compact) : r.compact = r := by
  apply ext_get?
  intro s
  rw [get?_compact]
  cases hs : r.get? s with
  | none => rfl
  | some ps => simp [h s ps hs]

/-- Compact rights are accepted as they are. -/
theorem Compact.parseCompact_toRequest (h : r.Compact) (hr : r.isEmpty = false) :
    parseCompact r.toRequest = .ok r := by
  rw [parseCompact, parse_toRequest hr]
  show (if r.compact.isEmpty then _ else _) = _
  rw [h.compact_eq, hr]
  rfl

end Rights

/-! Roles. -/

/-- The texts of a role are trimmed, its localized name says something, and its rights are compact
and not empty. -/
structure Role.Normal (r : Role) : Prop where
  localizedName : Text.Neat r.localizedName
  localized : r.localizedName ≠ ""
  notes : Text.Neat r.notes
  compact : r.rights.Compact
  entitled : r.rights.isEmpty = false

/-- The request for a role as it is. -/
def Role.request (r : Role) : RoleRequest :=
  ⟨r.name.text, r.localizedName, r.notes, r.rights.toRequest⟩

theorem RoleName.neat_text (n : RoleName) : Text.Neat n.text := by
  cases n <;> exact ⟨by rintro c ⟨⟩; decide, by rintro c ⟨⟩; decide⟩

theorem RoleRequest.normal_of_validate {q : RoleRequest} {id : Uuid} {r : Role}
    (h : q.validate id = .ok r) : r.Normal := by
  obtain ⟨hcompact, hentitled⟩ := Rights.of_parseCompact (of_validate h).2
  obtain ⟨name, -, h⟩ := ok_of_bind h
  dsimp only at h
  split at h
  next => cases h
  next hlocalized =>
    obtain ⟨rights, -, h⟩ := ok_of_bind h
    cases h
    exact ⟨Text.neat_trim _, hlocalized, Text.neat_trim _, hcompact, hentitled⟩

theorem Role.Normal.validate_request {r : Role} (h : r.Normal) :
    r.request.validate r.id = .ok r := by
  have hname : Text.trim r.name.text = r.name.text := Text.trim_of_neat r.name.neat_text
  have hlocalizedName := Text.trim_of_neat h.localizedName
  have hnotes := Text.trim_of_neat h.notes
  have hrights := h.compact.parseCompact_toRequest h.entitled
  simp only [RoleRequest.validate, request, hname, RoleName.parse_text, hlocalizedName, hnotes,
    hrights, h.localized, bind, Except.bind, pure, Except.pure, if_false]

end Turnstile
