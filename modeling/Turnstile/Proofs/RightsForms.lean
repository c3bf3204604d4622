import Turnstile.Proofs.NormalForms
import Turnstile.Proofs.Rendering

/-! The two forms of rights. They are stored under the names that follow from identifiers, in the
order of the sections, and sent under the names that callers know, in the order of these. The forms
have the same members, and each is read back as the rights that it was made of. -/
namespace Turnstile

namespace Json

theorem any_takes_text (depth : Nat) (s : String) :
    Takes (any (depth + 1)) (.text s) (.text s) := by
  intro rest _
  rw [written_text, any, skipSpace_cons (by decide)]
  simp only [string_inner, Except.map]

theorem table_takes {read : Reader} {ms ns : List (String × Value)}
    (h : Chosen (fun _ _ => .ok read) [] ms ns) : Takes (table read) (.record ms) (.record ns) := by
  intro rest _
  rw [written_record, table, skipSpace_cons (by decide)]
  simp only [members_memberChars h rest, bind, Except.bind, pure, Except.pure]

/-- In a table all values are read alike. -/
theorem chosen_of_forall {read : Reader} {ms : List (String × Value)}
    (h : ∀ m ∈ ms, Takes read m.2 m.2) (acc : List (String × Value)) :
    Chosen (fun _ _ => .ok read) acc ms ms := by
  induction ms generalizing acc with
  | nil => exact .nil acc
  | cons m ms ih =>
    obtain ⟨hm, hms⟩ := List.forall_mem_cons.mp h
    exact .cons rfl hm (ih hms _)

end Json

/-! The stored form. -/

theorem Section.storedName_eq (s : Section) : s.storedName = s.name := by
  cases s <;> decide +kernel

theorem Permission.storedName_eq (p : Permission) : p.storedName = p.name := by
  cases p <;> decide +kernel

theorem Section.ofStoredName?_eq_some_iff {text : String} {s : Section} :
    ofStoredName? text = some s ↔ s.storedName = text :=
  find?_name_eq_some_iff mem_all fun a b h => by
    rw [storedName_eq, storedName_eq] at h
    exact name_injective h

theorem Permission.ofStoredName?_eq_some_iff {text : String} {p : Permission} :
    ofStoredName? text = some p ↔ p.storedName = text :=
  find?_name_eq_some_iff mem_all fun a b h => by
    rw [storedName_eq, storedName_eq] at h
    exact name_injective h

namespace Rights

open Json (Value)

variable {r : Rights} {q : Request}

theorem setOfValue?_stored (ps : PermissionSet) :
    setOfValue? (.texts (ps.toList.map Permission.storedName)) = some ps := by
  have hmapM (l : List Permission) :
      ((l.map Permission.storedName).map Value.text).mapM permissionOfValue? = some l := by
    induction l with
    | nil => rfl
    | cons p l ih =>
      have hp : permissionOfValue? (.text p.storedName) = some p :=
        Permission.ofStoredName?_eq_some_iff.mpr rfl
      rw [List.map_cons, List.map_cons, List.mapM_cons, hp, ih]
      rfl
  rw [Value.texts, setOfValue?, hmapM, Option.map_some, PermissionSet.ofList_toList]

theorem putMember_stored (t : Rights) (s : Section) (ps : PermissionSet) :
    t.putMember (s.storedName, .texts (ps.toList.map Permission.storedName)) =
      some (t.put s ps) := by
  rw [putMember, Section.ofStoredName?_eq_some_iff.mpr rfl, setOfValue?_stored]
  rfl

/-- Entries of rights put one after another: those that have been put are there, and the others are
as they were. -/
theorem get?_foldl_put {l : List (Section × PermissionSet)} (hl : ∀ e ∈ l, r.get? e.1 = some e.2)
    (t : Rights) (s : Section) :
    (l.foldl (fun t e => t.put e.1 e.2) t).get? s =
      if s ∈ l.map Prod.fst then r.get? s else t.get? s := by
  induction l generalizing t with
  | nil => simp
  | cons e l ih =>
    obtain ⟨he, hrest⟩ := List.forall_mem_cons.mp hl
    rw [List.foldl_cons, ih hrest, get?_put]
    simp only [List.map_cons, List.mem_cons]
    by_cases hs : s = e.1
    · simp [hs, he]
    · simp only [hs, false_or, if_false]

theorem foldl_put_entries (r : Rights) : r.entries.foldl (fun t e => t.put e.1 e.2) empty = r := by
  refine ext_get? fun s => ?_
  rw [get?_foldl_put fun e he => mem_entries.mp he, get?_empty, map_fst_entries]
  cases h : r.get? s <;> simp [h, s.mem_all]

theorem ofValue?_toValue (r : Rights) : ofValue? r.toValue = some r := by
  have hfold (l : List (Section × PermissionSet)) (t : Rights) :
      (l.map fun e => (e.1.storedName, Value.texts (e.2.toList.map Permission.storedName))).foldlM
        putMember t = some (l.foldl (fun t e => t.put e.1 e.2) t) := by
    induction l generalizing t with
    | nil => rfl
    | cons e l ih =>
      rw [List.map_cons, List.foldlM_cons, putMember_stored]
      exact ih _
  rw [toValue, ofValue?, hfold, foldl_put_entries]

theorem toValue_taken (r : Rights) : Json.Takes storedReader r.toValue r.toValue := by
  refine Json.table_takes (Json.chosen_of_forall (fun m hm => ?_) [])
  obtain ⟨e, -, rfl⟩ := List.mem_map.mp hm
  refine Json.list_takes (List.forall₂_same.mpr fun v hv => ?_)
  obtain ⟨name, -, rfl⟩ := List.mem_map.mp hv
  exact Json.any_takes_text 1 name

theorem ofText?_render (r : Rights) : ofText? (Json.render r.toValue) = some r := by
  rw [ofText?, r.toValue_taken.read]
  exact r.ofValue?_toValue

/-! The form that is sent. -/

theorem toList_toRequest_perm (r : Rights) : r.toRequest.toList.Perm r.namedEntries := by
  have hdistinct {l : List (String × List String)}
      (h : l.Pairwise fun a b => ¬ compare a.1 b.1 = .eq) : l.Nodup := by
    refine h.imp fun {a b} hne heq => hne ?_
    rw [heq]
    exact Std.ReflCmp.compare_self
  refine (List.perm_ext_iff_of_nodup (hdistinct Std.ExtTreeMap.distinct_keys_toList)
    (hdistinct r.pairwise_namedEntries)).mpr fun e => ?_
  rw [mem_namedEntries, Std.ExtTreeMap.mem_toList_iff_getElem?_eq_some,
    getElem?_toRequest_eq_some_iff]
  simp only [Prod.ext_iff]

/-- Both forms have the same members. -/
theorem members_perm (r : Rights) : ∃ stored sent, r.toValue = .record stored ∧
    r.toRequest.toValue = .record sent ∧ sent.Perm stored ∧
    stored.map Prod.fst =
      (Section.all.filter fun s => (r.get? s).isSome).map Section.storedName ∧
    (sent.map Prod.fst).Pairwise (· < ·) := by
  refine ⟨_, _, rfl, rfl, ?_, ?_, ?_⟩
  · have hstored : (r.entries.map fun e =>
        (e.1.storedName, Value.texts (e.2.toList.map Permission.storedName))) =
          r.namedEntries.map fun e => (e.1, .texts e.2) := by
      have hname : Permission.storedName = Permission.name := funext Permission.storedName_eq
      rw [namedEntries, List.map_map, hname]
      simp only [Section.storedName_eq]
      rfl
    rw [hstored]
    exact r.toList_toRequest_perm.map _
  · rw [← map_fst_entries, List.map_map, List.map_map]
    rfl
  · rw [List.map_map, List.pairwise_map]
    exact Std.ExtTreeMap.ordered_keys_toList.imp compare_lt_iff_lt.mp

theorem names_named (names : List String) : (PermissionSet.named names).names =
    ["READ", "CREATE", "UPDATE", "DELETE"].filter (decide <| · ∈ names) := by
  have hall : ["READ", "CREATE", "UPDATE", "DELETE"] = Permission.all.map Permission.name := rfl
  rw [hall, List.filter_map, PermissionSet.names, PermissionSet.toList]
  congr 1

/-- What was accepted is told again under the same names, each permission once. -/
theorem getElem?_toRequest_of_parse (h : parse q = .ok r) (name : String) :
    r.toRequest[name]? = q[name]?.map fun names => (PermissionSet.named names).names := by
  obtain ⟨⟨-, hvalid⟩, hget⟩ := parse_eq_ok_iff.mp h
  have hsection (s : Section) : r.toRequest[s.name]? =
      q[s.name]?.map fun names => (PermissionSet.named names).names := by
    rw [getElem?_toRequest, hget, Option.map_map]
    rfl
  by_cases hname : Section.Named name
  · obtain ⟨s, rfl⟩ := Section.named_iff.mp hname
    exact hsection s
  · have hsent : r.toRequest[name]? = none := by
      by_contra hne
      obtain ⟨names, hnames⟩ := Option.ne_none_iff_exists'.mp hne
      obtain ⟨s, -, -, rfl, -⟩ := getElem?_toRequest_eq_some_iff.mp hnames
      exact hname (Section.named_iff.mpr ⟨s, rfl⟩)
    have hasked : q[name]? = none := by
      by_contra hne
      obtain ⟨names, hnames⟩ := Option.ne_none_iff_exists'.mp hne
      exact hname (hvalid name names hnames).1
    rw [hsent, hasked, Option.map_none]

/-- Rights are read back from the text that they are stored as, and accepted in the form in which
they are sent: as they are if any section is there, and where they have to be compact if they are.
Stored names are those that callers are told, and both forms have the same members, in the order of
sections the one and in ascending order of names the other. What was accepted from a caller is sent
back under the same names, each with the permissions that were listed, once and in their own
order. -/
theorem rights_forms_agree :
    ((∀ s : Section, s.storedName = s.name) ∧ ∀ p : Permission, p.storedName = p.name) ∧
      (∀ r : Rights, ofText? (Json.render r.toValue) = some r ∧
        (r.isEmpty = false → parse r.toRequest = .ok r) ∧
        (r.isEmpty = false → r.Compact → parseCompact r.toRequest = .ok r) ∧
        ∃ stored sent, r.toValue = .record stored ∧ r.toRequest.toValue = .record sent ∧
          sent.Perm stored ∧
          stored.map Prod.fst =
            (Section.all.filter fun s => (r.get? s).isSome).map Section.storedName ∧
          (sent.map Prod.fst).Pairwise (· < ·)) ∧
      ∀ q r, parse q = .ok r → ∀ name : String, r.toRequest[name]? = q[name]?.map fun names =>
        ["READ", "CREATE", "UPDATE", "DELETE"].filter (decide <| · ∈ names) := by
  refine ⟨⟨Section.storedName_eq, Permission.storedName_eq⟩, fun r => ⟨r.ofText?_render,
    parse_toRequest, fun hr h => h.parseCompact_toRequest hr, r.members_perm⟩, fun q r h name => ?_⟩
  rw [getElem?_toRequest_of_parse h]
  simp only [names_named]

/-- A request with a list out of order, with a repetition and with a section without permissions.
The section is kept by both forms, which differ in the order of their members. -/
theorem unsorted_request_kept :
    let q : Request := .ofList [("PRICELIST", ["DELETE", "READ", "DELETE"]), ("CATALOG", [])]
    let r := (empty.put .pricelist (.ofList [.read, .delete])).put .catalog .empty
    parse q = .ok r ∧ r.toRequest["PRICELIST"]? = some ["READ", "DELETE"] ∧
      r.toRequest.toList = [("CATALOG", []), ("PRICELIST", ["READ", "DELETE"])] ∧
      r.entries.map (fun e => e.1.storedName) = ["PRICELIST", "CATALOG"] ∧
      ofText? (Json.render r.toValue) = some r ∧ parse r.toRequest = .ok r ∧
      parseCompact r.compact.toRequest = .ok r.compact := by
  intro q r
  obtain ⟨-, hread, hsent⟩ := rights_forms_agree
  have hparse : parse q = .ok r := by decide +kernel
  refine ⟨hparse, (hsent q r hparse "PRICELIST").trans (by decide +kernel), by decide +kernel,
    by decide +kernel, (hread r).1, (hread r).2.1 (by decide), ?_⟩
  exact (hread r.compact).2.2.1 (by decide) r.compact_compact

end Rights

end Turnstile
