import Mathlib.Data.List.Nodup
import Mathlib.Data.String.Basic
import Turnstile.Proofs.Outcomes
import Turnstile.Rights.Codec

/-! Requests for rights. A request is accepted when it names something, when all its sections are
sections and all its permissions are permissions. Of any other the first name without a meaning is
told: sections are gone through in ascending order of their names, a section's name comes before its
list, and a list is gone through as it is written. -/
namespace Turnstile

/-! Lists that are gone through until something fails. -/

section FirstFailure

variable {ε α β : Type} {good : α → Prop} {fault : α → ε → Prop} {l : List α} {e : ε}

/-- The error of the first item of a list that is at fault. -/
def FirstFault (good : α → Prop) (fault : α → ε → Prop) (l : List α) (e : ε) : Prop :=
  ∃ before a after, l = before ++ a :: after ∧ (∀ b ∈ before, good b) ∧ fault a e

theorem firstFault_nil : ¬ FirstFault good fault [] e := by
  rintro ⟨before, a, after, h, -⟩
  cases before <;> cases h

theorem firstFault_cons {a : α} :
    FirstFault good fault (a :: l) e ↔ fault a e ∨ good a ∧ FirstFault good fault l e := by
  constructor
  · rintro ⟨before, b, after, h, hbefore, hb⟩
    rcases List.cons_eq_append_iff.mp h with ⟨rfl, h⟩ | ⟨before, rfl, rfl⟩
    · obtain ⟨rfl, -⟩ := List.cons.inj h
      exact .inl hb
    · obtain ⟨ha, hbefore⟩ := List.forall_mem_cons.mp hbefore
      exact .inr ⟨ha, before, b, after, rfl, hbefore, hb⟩
  · rintro (ha | ⟨ha, before, b, after, rfl, hbefore, hb⟩)
    · exact ⟨[], a, l, rfl, nofun, ha⟩
    · exact ⟨a :: before, b, after, rfl, List.forall_mem_cons.mpr ⟨ha, hbefore⟩, hb⟩

/-- A loop in which the state decides nothing fails at the first item at fault. -/
theorem foldlM_eq_error_iff {f : β → α → Except ε β} (hgood : ∀ b a, good a ↔ ∃ c, f b a = .ok c)
    (hfault : ∀ b a e, f b a = .error e ↔ fault a e) (b : β) :
    l.foldlM f b = .error e ↔ FirstFault good fault l e := by
  induction l generalizing b with
  | nil => exact ⟨fun h => (nomatch h), fun h => absurd h firstFault_nil⟩
  | cons a l ih =>
    rw [List.foldlM_cons, firstFault_cons, ← hfault b a e, hgood b a]
    cases h : f b a with
    | error e' => simp [bind, Except.bind]
    | ok c => simpa [bind, Except.bind] using ih c

theorem good_of_foldlM {f : β → α → Except ε β} (hgood : ∀ b a, good a ↔ ∃ c, f b a = .ok c)
    {b c : β} (h : l.foldlM f b = .ok c) : ∀ a ∈ l, good a := by
  induction l generalizing b with
  | nil => exact nofun
  | cons a l ih =>
    rw [List.foldlM_cons] at h
    obtain ⟨b', ha, hl⟩ := ok_of_bind h
    exact List.forall_mem_cons.mpr ⟨(hgood b a).mpr ⟨b', ha⟩, ih hl⟩

theorem mapM_eq_error_iff {f : α → Except ε β} (hgood : ∀ a, good a ↔ ∃ c, f a = .ok c)
    (hfault : ∀ a e, f a = .error e ↔ fault a e) :
    l.mapM f = .error e ↔ FirstFault good fault l e := by
  induction l with
  | nil => exact ⟨fun h => (nomatch h), fun h => absurd h firstFault_nil⟩
  | cons a l ih =>
    rw [List.mapM_cons, firstFault_cons, ← hfault a e, hgood a, ← ih]
    cases h : f a with
    | error e' => simp [bind, Except.bind]
    | ok c => cases hl : l.mapM f <;> simp [bind, Except.bind, pure, Except.pure]

end FirstFailure

/-! Names. -/

section Names

variable {α : Type} {all : List α} {name : α → String} {text : String}

theorem find?_name_eq_some_iff (hall : ∀ a, a ∈ all) (hinj : name.Injective) {a : α} :
    all.find? (fun b => name b = text) = some a ↔ name a = text := by
  constructor
  · intro h
    simpa using List.find?_some h
  · rintro rfl
    cases h : all.find? fun b => name b = name a with
    | none => exact absurd (List.find?_eq_none.mp h a (hall a)) (by simp)
    | some b => exact congrArg some (hinj (by simpa using List.find?_some h))

theorem find?_name_eq_none_iff :
    all.find? (fun b => name b = text) = none ↔ text ∉ all.map name := by
  simp

end Names

namespace Section

/-- The text is the name of a section. -/
def Named (text : String) : Prop := text ∈ all.map name

instance (text : String) : Decidable (Named text) := inferInstanceAs (Decidable (_ ∈ _))

variable {text : String}

theorem parse_eq_ok_iff {s : Section} : parse text = .ok s ↔ s.name = text := by
  rw [← find?_name_eq_some_iff mem_all fun _ _ => name_injective]
  unfold parse ofName?
  split <;> simp [*]

theorem parse_eq_error_iff {e : Error} :
    parse text = .error e ↔ ¬ Named text ∧ e = .invalidSection text := by
  rw [Named, ← find?_name_eq_none_iff]
  unfold parse ofName?
  split <;> simp [*, eq_comm (b := e)]

theorem named_iff : Named text ↔ ∃ s : Section, s.name = text := by simp [Named, mem_all]

end Section

namespace Permission

/-- The text is the name of a permission. -/
def Named (text : String) : Prop := text ∈ all.map name

instance (text : String) : Decidable (Named text) := inferInstanceAs (Decidable (_ ∈ _))

variable {text : String}

theorem name_injective {p q : Permission} (h : p.name = q.name) : p = q := by
  have hparse := congrArg parse h
  rw [parse_name, parse_name] at hparse
  exact Except.ok.inj hparse

theorem parse_eq_ok_iff {p : Permission} : parse text = .ok p ↔ p.name = text := by
  rw [← find?_name_eq_some_iff mem_all fun _ _ => name_injective]
  unfold parse
  split <;> simp [*]

theorem parse_eq_error_iff {e : Error} :
    parse text = .error e ↔ ¬ Named text ∧ e = .invalidPermission text := by
  rw [Named, ← find?_name_eq_none_iff]
  unfold parse
  split <;> simp [*, eq_comm (b := e)]

theorem named_iff : Named text ↔ ∃ p : Permission, p.name = text := by simp [Named, mem_all]

end Permission

namespace PermissionSet

variable {names : List String}

/-- The permissions that a list names. -/
def named (names : List String) : PermissionSet := ofFn fun p => decide (p.name ∈ names)

@[simp] theorem contains_named (p : Permission) :
    (named names).contains p = decide (p.name ∈ names) := by simp [named]

theorem named_map_name (ps : List Permission) : named (ps.map Permission.name) = ofList ps := by
  refine ext_contains fun p => ?_
  rw [contains_named, contains_ofList, Bool.eq_iff_iff, decide_eq_true_eq, List.contains_iff_mem,
    List.mem_map_of_injective fun _ _ => Permission.name_injective]

theorem isEmpty_named_iff (h : ∀ n ∈ names, Permission.Named n) :
    (named names).isEmpty = true ↔ names = [] := by
  rw [isEmpty_iff, List.eq_nil_iff_forall_not_mem]
  constructor
  · intro hnone n hn
    obtain ⟨p, rfl⟩ := Permission.named_iff.mp (h n hn)
    simpa [hn] using hnone p
  · intro hnone p
    simpa using hnone p.name

theorem mapM_parse_eq_ok_iff {ps : List Permission} :
    names.mapM Permission.parse = .ok ps ↔ ps.map Permission.name = names := by
  induction names generalizing ps with
  | nil => cases ps <;> simp [pure, Except.pure]
  | cons n names ih =>
    rw [List.mapM_cons, List.map_eq_cons_iff]
    simp only [← ih, ← Permission.parse_eq_ok_iff]
    cases Permission.parse n with
    | error e => simp [bind, Except.bind]
    | ok p =>
      cases names.mapM Permission.parse <;>
        simp [bind, Except.bind, pure, Except.pure, eq_comm]

/-- Known names are read as the permissions that they name. -/
theorem parse_eq_ok_iff {ps : PermissionSet} :
    parse names = .ok ps ↔ (∀ n ∈ names, Permission.Named n) ∧ ps = named names := by
  constructor
  · intro h
    obtain ⟨l, hl, h⟩ := ok_of_bind h
    cases h
    rw [← mapM_parse_eq_ok_iff.mp hl, named_map_name]
    exact ⟨fun n hn => List.map_subset _ (fun p _ => p.mem_all) hn, rfl⟩
  · rintro ⟨hnamed, rfl⟩
    obtain ⟨l, rfl⟩ : ∃ l : List Permission, l.map Permission.name = names := by
      induction names with
      | nil => exact ⟨[], rfl⟩
      | cons n names ih =>
        obtain ⟨hn, hnames⟩ := List.forall_mem_cons.mp hnamed
        obtain ⟨p, hp⟩ := Permission.named_iff.mp hn
        obtain ⟨l, hl⟩ := ih hnames
        exact ⟨p :: l, by rw [List.map_cons, hp, hl]⟩
    rw [parse, mapM_parse_eq_ok_iff.mpr rfl, named_map_name]
    rfl

/-- The first unknown name is reported. -/
theorem parse_eq_error_iff {e : Error} : parse names = .error e ↔
    FirstFault Permission.Named (fun n e => ¬ Permission.Named n ∧ e = .invalidPermission n)
      names e := by
  rw [← mapM_eq_error_iff (f := Permission.parse)
    (fun n => by simp only [Permission.named_iff, Permission.parse_eq_ok_iff])
    (fun n e => Permission.parse_eq_error_iff), parse]
  cases names.mapM Permission.parse <;> simp [bind, Except.bind, pure, Except.pure]

end PermissionSet

namespace Rights

variable {q : Request} {r t : Rights} {e : Error}

/-- An entry of a request in which all names have a meaning. -/
def ValidEntry (entry : String × List String) : Prop :=
  Section.Named entry.1 ∧ ∀ n ∈ entry.2, Permission.Named n

/-- What an entry is refused for: its section, or else the first permission without a meaning. -/
inductive EntryFault (entry : String × List String) : Error → Prop
  | section (h : ¬ Section.Named entry.1) : EntryFault entry (.invalidSection entry.1)
  | permission (hsection : Section.Named entry.1) (before after : List String) (n : String)
      (hnames : entry.2 = before ++ n :: after) (hbefore : ∀ m ∈ before, Permission.Named m)
      (hn : ¬ Permission.Named n) : EntryFault entry (.invalidPermission n)

theorem parseEntry_eq_ok_iff {entry : String × List String} :
    parseEntry r entry = .ok t ↔
      ValidEntry entry ∧ ∃ s : Section, s.name = entry.1 ∧ t = r.put s (.named entry.2) := by
  constructor
  · intro h
    obtain ⟨s, hs, h⟩ := ok_of_bind h
    obtain ⟨ps, hps, h⟩ := ok_of_bind h
    cases h
    have hname := Section.parse_eq_ok_iff.mp hs
    obtain ⟨hnames, rfl⟩ := PermissionSet.parse_eq_ok_iff.mp hps
    exact ⟨⟨Section.named_iff.mpr ⟨s, hname⟩, hnames⟩, s, hname, rfl⟩
  · rintro ⟨⟨-, hnames⟩, s, hs, rfl⟩
    rw [parseEntry, Section.parse_eq_ok_iff.mpr hs, PermissionSet.parse_eq_ok_iff.mpr ⟨hnames, rfl⟩]
    rfl

theorem validEntry_iff (r : Rights) (entry : String × List String) :
    ValidEntry entry ↔ ∃ t, parseEntry r entry = .ok t := by
  simp only [parseEntry_eq_ok_iff]
  constructor
  · intro h
    obtain ⟨s, hs⟩ := Section.named_iff.mp h.1
    exact ⟨_, h, s, hs, rfl⟩
  · rintro ⟨_, h, -⟩
    exact h

theorem parseEntry_eq_error_iff (r : Rights) (entry : String × List String) (e : Error) :
    parseEntry r entry = .error e ↔ EntryFault entry e := by
  unfold parseEntry
  cases hs : Section.parse entry.1 with
  | error e' =>
    obtain ⟨hsection, rfl⟩ := Section.parse_eq_error_iff.mp hs
    constructor
    · rintro ⟨⟩
      exact .section hsection
    · rintro (_ | ⟨hs', -⟩)
      · rfl
      · exact absurd hs' hsection
  | ok s =>
    have hsection : Section.Named entry.1 :=
      Section.named_iff.mpr ⟨s, Section.parse_eq_ok_iff.mp hs⟩
    have hfault : PermissionSet.parse entry.2 = .error e ↔ EntryFault entry e := by
      rw [PermissionSet.parse_eq_error_iff]
      constructor
      · rintro ⟨before, n, after, hnames, hbefore, hn, rfl⟩
        exact .permission hsection before after n hnames hbefore hn
      · rintro (h | ⟨-, before, after, n, hnames, hbefore, hn⟩)
        · exact absurd hsection h
        · exact ⟨before, n, after, hnames, hbefore, hn, rfl⟩
    rw [← hfault]
    cases PermissionSet.parse entry.2 <;> simp [bind, Except.bind, pure, Except.pure]

/-- Valid entries are read one after another: the sections that were named have what was listed, and
the others are as they were. No name has two lists in `l`, so `m` can be asked for it. -/
theorem foldlM_parseEntry {l : List (String × List String)} {m : String → Option (List String)}
    (hl : ∀ entry ∈ l, ValidEntry entry ∧ m entry.1 = some entry.2) (r : Rights) :
    ∃ t, l.foldlM parseEntry r = .ok t ∧ ∀ s : Section, t.get? s =
      if s.name ∈ l.map Prod.fst then (m s.name).map .named else r.get? s := by
  induction l generalizing r with
  | nil => exact ⟨r, rfl, fun s => by simp⟩
  | cons entry l ih =>
    obtain ⟨⟨hvalid, hm⟩, hrest⟩ := List.forall_mem_cons.mp hl
    obtain ⟨s, hs⟩ := Section.named_iff.mp hvalid.1
    obtain ⟨t, ht, hget⟩ := ih hrest (r.put s (.named entry.2))
    refine ⟨t, ?_, fun s' => ?_⟩
    · rw [List.foldlM_cons, parseEntry_eq_ok_iff.mpr ⟨hvalid, s, hs, rfl⟩]
      exact ht
    · simp only [hget, get?_put, List.map_cons, List.mem_cons]
      by_cases hread : s'.name ∈ l.map Prod.fst
      · rw [if_pos hread, if_pos (.inr hread)]
      · by_cases heq : s' = s
        · subst heq
          rw [if_neg hread, if_pos rfl, if_pos (.inl hs), hs, hm, Option.map_some]
        · have hname : s'.name ≠ entry.1 := fun h => heq (Section.name_injective (h.trans hs.symm))
          rw [if_neg hread, if_neg heq, if_neg (by simp [hname, hread])]

namespace Request

/-- All names in the request have a meaning. -/
def Valid (q : Request) : Prop := ∀ name names, q[name]? = some names → ValidEntry (name, names)

/-- The first fault of a request: no section with a lesser name is at fault. -/
def FirstFault (q : Request) (e : Error) : Prop :=
  ∃ name names, q[name]? = some names ∧
    (∀ name' names', name' < name → q[name']? = some names' → ValidEntry (name', names')) ∧
    EntryFault (name, names) e

theorem forall_mem_toList {P : String × List String → Prop} :
    (∀ entry ∈ q.toList, P entry) ↔ ∀ name names, q[name]? = some names → P (name, names) := by
  simp only [Prod.forall, Std.ExtTreeMap.mem_toList_iff_getElem?_eq_some]

/-- The entries come in the order of their names. -/
theorem firstFault_toList :
    Turnstile.FirstFault ValidEntry EntryFault q.toList e ↔ q.FirstFault e := by
  have hordered := Std.ExtTreeMap.ordered_keys_toList (t := q)
  simp only [compare_lt_iff_lt] at hordered
  constructor
  · rintro ⟨before, ⟨name, names⟩, after, hl, hbefore, hfault⟩
    rw [hl] at hordered
    refine ⟨name, names, ?_, fun name' names' hlt hget => ?_, hfault⟩
    · rw [← Std.ExtTreeMap.mem_toList_iff_getElem?_eq_some, hl]
      exact List.mem_append_right _ List.mem_cons_self
    · rw [← Std.ExtTreeMap.mem_toList_iff_getElem?_eq_some, hl, List.mem_append] at hget
      rcases hget with hget | hget
      · exact hbefore _ hget
      · exfalso
        have hafter := (List.pairwise_cons.mp (List.pairwise_append.mp hordered).2.1).1
        rcases List.mem_cons.mp hget with heq | hget
        · obtain ⟨rfl, -⟩ := Prod.mk.inj heq
          exact lt_irrefl _ hlt
        · exact lt_asymm hlt (hafter _ hget)
  · rintro ⟨name, names, hget, hless, hfault⟩
    have hmem := Std.ExtTreeMap.mem_toList_iff_getElem?_eq_some.mpr hget
    obtain ⟨before, after, hl⟩ := List.append_of_mem hmem
    rw [hl] at hordered
    refine ⟨before, (name, names), after, hl, fun entry hentry => ?_, hfault⟩
    refine hless _ _ ((List.pairwise_append.mp hordered).2.2 entry hentry _ List.mem_cons_self) ?_
    rw [← Std.ExtTreeMap.mem_toList_iff_getElem?_eq_some, hl]
    exact List.mem_append_left _ hentry

end Request

theorem parse_eq_error_iff :
    parse q = .error e ↔ (q = ∅ ∧ e = .emptyRights) ∨ q.FirstFault e := by
  rw [← Request.firstFault_toList, ← foldlM_eq_error_iff validEntry_iff parseEntry_eq_error_iff
    empty, parse]
  by_cases hq : q = ∅
  · simp [hq, Std.ExtTreeMap.toList_eq_nil_iff.mpr, pure, Except.pure, eq_comm]
  · simp [hq]

/-- The sections of accepted rights are those that were named, with what was listed for them. -/
theorem parse_eq_ok_iff : parse q = .ok r ↔
    (q ≠ ∅ ∧ q.Valid) ∧ ∀ s : Section, r.get? s = q[s.name]?.map .named := by
  by_cases hq : q = ∅
  · simp [hq, parse]
  have hparse : parse q = q.toList.foldlM parseEntry empty := by simp [parse, hq]
  have hread (hvalid : q.Valid) :
      ∃ t, parse q = .ok t ∧ ∀ s : Section, t.get? s = q[s.name]?.map .named := by
    obtain ⟨t, ht, hget⟩ := foldlM_parseEntry (l := q.toList) (m := (q[·]?))
      (Request.forall_mem_toList.mpr fun name names h => ⟨hvalid name names h, h⟩) empty
    refine ⟨t, hparse.trans ht, fun s => ?_⟩
    rw [hget, get?_empty]
    split
    next => rfl
    next hunnamed =>
      have hnone : q[s.name]? = none := by
        simpa [Std.ExtTreeMap.mem_toList_iff_getElem?_eq_some] using hunnamed
      rw [hnone, Option.map_none]
  constructor
  · intro h
    have hvalid : q.Valid :=
      Request.forall_mem_toList.mp (good_of_foldlM validEntry_iff (hparse.symm.trans h))
    obtain ⟨t, ht, hget⟩ := hread hvalid
    rw [h] at ht
    cases ht
    exact ⟨⟨hq, hvalid⟩, hget⟩
  · rintro ⟨⟨-, hvalid⟩, hget⟩
    obtain ⟨t, ht, htget⟩ := hread hvalid
    rw [ht, ext_get? fun s => (htget s).trans (hget s).symm]

theorem exists_parse_iff : (∃ r, parse q = .ok r) ↔ q ≠ ∅ ∧ q.Valid := by
  constructor
  · rintro ⟨r, h⟩
    exact (parse_eq_ok_iff.mp h).1
  · intro h
    exact ⟨ofFn fun s => q[s.name]?.map .named, parse_eq_ok_iff.mpr ⟨h, fun s => get?_ofFn ..⟩⟩

theorem map_fst_entries (r : Rights) :
    r.entries.map Prod.fst = Section.all.filter fun s => (r.get? s).isSome := by
  rw [entries, List.map_filterMap, ← List.filterMap_eq_filter]
  congr 1
  funext s
  cases h : r.get? s <;> simp [h, Option.guard]

section Accepted

variable (h : parse q = .ok r)
include h

theorem contains_of_parse (s : Section) (p : Permission) :
    r.contains s p = true ↔ ∃ names, q[s.name]? = some names ∧ p.name ∈ names := by
  rw [contains, (parse_eq_ok_iff.mp h).2]
  cases q[s.name]? <;> simp

theorem get?_ne_none_of_parse (s : Section) : r.get? s ≠ none ↔ s.name ∈ q := by
  rw [(parse_eq_ok_iff.mp h).2, ne_eq, Option.map_eq_none_iff, ← ne_eq, Option.ne_none_iff_isSome,
    Std.ExtTreeMap.isSome_getElem?_iff_mem]

/-- No two names are taken for one section. -/
theorem size_of_parse : r.size = q.size := by
  have hnames : ((r.entries.map Prod.fst).map Section.name).Perm q.keys := by
    rw [map_fst_entries]
    refine (List.perm_ext_iff_of_nodup ?_ Std.ExtTreeMap.nodup_keys).mpr fun name => ?_
    · exact (Section.nodup_all.filter _).map fun _ _ => Section.name_injective
    · simp only [List.mem_map, List.mem_filter, Section.mem_all, true_and,
        Option.isSome_iff_ne_none, get?_ne_none_of_parse h, Std.ExtTreeMap.mem_keys]
      constructor
      · rintro ⟨s, hs, rfl⟩
        exact hs
      · intro hname
        obtain ⟨names, hnames⟩ := Option.isSome_iff_exists.mp
          (Std.ExtTreeMap.mem_iff_isSome_getElem?.mp hname)
        obtain ⟨s, rfl⟩ := Section.named_iff.mp ((parse_eq_ok_iff.mp h).1.2 name names hnames).1
        exact ⟨s, hname, rfl⟩
  have hlength := hnames.length_eq
  rwa [List.length_map, List.length_map, Std.ExtTreeMap.length_keys] at hlength

end Accepted

theorem parseCompact_of_error (h : parse q = .error e) : parseCompact q = .error e := by
  rw [parseCompact, h]
  rfl

theorem parseCompact_of_ok (h : parse q = .ok r) :
    parseCompact q = if r.compact.isEmpty then .error .emptyRights else .ok r.compact := by
  rw [parseCompact, h]
  rfl

section Accepted

variable (h : parse q = .ok r)
include h

theorem get?_compact_of_parse (s : Section) :
    r.compact.get? s = if q[s.name]? = some [] then none else r.get? s := by
  obtain ⟨⟨-, hvalid⟩, hget⟩ := parse_eq_ok_iff.mp h
  rw [get?_compact, hget]
  cases hs : q[s.name]? with
  | none => rfl
  | some names =>
    have hempty : (PermissionSet.named names).isEmpty = true ↔ names = [] :=
      PermissionSet.isEmpty_named_iff (hvalid _ _ hs).2
    by_cases hnames : names = []
    · rw [Option.map_some, Option.filter_some, hempty.mpr hnames, hnames]
      rfl
    · have hsome : (PermissionSet.named names).isEmpty = false := by
        rwa [← Bool.not_eq_true, hempty]
      simp [hsome, hnames]

theorem isEmpty_compact_of_parse :
    r.compact.isEmpty = true ↔ ∀ (name : String) names, q[name]? = some names → names = [] := by
  obtain ⟨⟨-, hvalid⟩, hget⟩ := parse_eq_ok_iff.mp h
  rw [isEmpty_iff]
  constructor
  · intro hempty name names hnames
    obtain ⟨s, rfl⟩ := Section.named_iff.mp (hvalid _ _ hnames).1
    have hs := get?_compact_of_parse h s
    rw [hempty, get?_empty, hget, hnames] at hs
    by_contra hne
    simp [hne] at hs
  · intro hall
    refine ext_get? fun s => ?_
    rw [get?_compact_of_parse h, get?_empty, hget]
    cases hs : q[s.name]? with
    | none => rfl
    | some names => simp [hall _ _ hs]

end Accepted

/-- A request is accepted exactly when it names something and every name in it has a meaning; the
rights that it stands for have its sections, one for each of its names, and in each the permissions
that were listed. Any other request is refused for the first name without a meaning. Where rights
have to be compact the same is refused in the same way, and beyond that a request that lists no
permission at all; the sections without permissions are left out. -/
theorem requests_validated (q : Request) :
    ((∃ r, parse q = .ok r) ↔ q ≠ ∅ ∧ q.Valid) ∧
      (∀ r, parse q = .ok r →
        (∀ s p, r.contains s p = true ↔ ∃ names, q[s.name]? = some names ∧ p.name ∈ names) ∧
        (∀ s, r.get? s ≠ none ↔ s.name ∈ q) ∧ r.size = q.size) ∧
      (∀ e, parse q = .error e ↔ (q = ∅ ∧ e = .emptyRights) ∨ q.FirstFault e) ∧
      (∀ e, parse q = .error e → parseCompact q = .error e) ∧
      (∀ r, parse q = .ok r →
        (parseCompact q = .error .emptyRights ↔
          ∀ (name : String) names, q[name]? = some names → names = []) ∧
        ((∃ (name : String) (names : _), q[name]? = some names ∧ names ≠ []) →
          ∃ t, parseCompact q = .ok t ∧
            ∀ s, t.get? s = if q[s.name]? = some [] then none else r.get? s)) ∧
      ∀ name : String, name ∈ q → ¬ Section.Named name → ∃ e, parseCompact q = .error e := by
  refine ⟨exists_parse_iff, fun r h => ⟨contains_of_parse h, get?_ne_none_of_parse h,
    size_of_parse h⟩, fun e => parse_eq_error_iff, fun e => parseCompact_of_error, fun r h => ?_,
    fun name hname hunknown => ?_⟩
  · rw [parseCompact_of_ok h, ← isEmpty_compact_of_parse h]
    refine ⟨by cases r.compact.isEmpty <;> simp, fun ⟨name, names, hnames, hne⟩ => ?_⟩
    refine ⟨r.compact, if_neg fun hempty => hne ?_, get?_compact_of_parse h⟩
    exact (isEmpty_compact_of_parse h).mp hempty name names hnames
  · cases h : parse q with
    | error e => exact ⟨e, parseCompact_of_error h⟩
    | ok r =>
      obtain ⟨names, hnames⟩ := Option.isSome_iff_exists.mp
        (Std.ExtTreeMap.mem_iff_isSome_getElem?.mp hname)
      exact absurd ((parse_eq_ok_iff.mp h).1.2 name names hnames).1 hunknown

/-- A permission listed twice, a section without any, and two names without a meaning, of which the
one in the lesser section is told. -/
theorem lesser_section_told :
    let accepted : Request := .ofList [("ORDERS", ["READ", "READ"]), ("HISTORY", [])]
    let refused : Request := .ofList [("CATALOG", ["READ", "FLY"]), ("BOGUS", [])]
    (∃ r, parse accepted = .ok r ∧ r.contains .orders .read = true ∧ r.size = 2 ∧
      ∃ t, parseCompact accepted = .ok t ∧ t.get? .history = none) ∧
      refused.FirstFault (.invalidSection "BOGUS") ∧
      parseCompact refused = .error (.invalidSection "BOGUS") := by
  intro accepted refused
  obtain ⟨-, haccepted, -, -, hcompact, -⟩ := requests_validated accepted
  obtain ⟨-, -, hfails, hfailsCompact, -⟩ := requests_validated refused
  have hparse : parse accepted =
      .ok ((empty.put .orders (.ofList [.read])).put .history .empty) := by decide +kernel
  have hrefused : parse refused = .error (.invalidSection "BOGUS") := by decide +kernel
  obtain ⟨hcontains, -, hsize⟩ := haccepted _ hparse
  have horders : accepted["ORDERS"]? = some ["READ", "READ"] := by decide +kernel
  obtain ⟨t, ht, hleft⟩ := (hcompact _ hparse).2 ⟨"ORDERS", ["READ", "READ"], horders, by decide⟩
  refine ⟨⟨_, hparse, (hcontains .orders .read).mpr ⟨["READ", "READ"], horders, by decide⟩, hsize,
    t, ht, (hleft .history).trans (if_pos (by decide +kernel))⟩, ?_, hfailsCompact _ hrefused⟩
  rcases (hfails _).mp hrefused with ⟨-, he⟩ | hfirst
  · cases he
  · exact hfirst

end Rights

end Turnstile
