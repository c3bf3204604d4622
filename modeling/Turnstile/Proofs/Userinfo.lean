import Turnstile.Proofs.Splitting
import Turnstile.Url.Basic

/-! Where a URL has its password. The text around it, a frame, is read the same whatever password
stands in it, and every URL that has a password has it in a frame. -/
namespace Turnstile.Url

/-! Splitting texts. -/

section Splitting

variable {c : Char} {s t : List Char}

theorem cut_nil (c : Char) : cut c [] = ([], none) := rfl

theorem cut_cons (c d : Char) (s : List Char) :
    cut c (d :: s) = if d = c then ([], some s) else (d :: (cut c s).1, (cut c s).2) := by
  by_cases h : d = c <;> simp [cut, h]

theorem cut_append (h : c ∉ s) (t : List Char) :
    cut c (s ++ t) = (s ++ (cut c t).1, (cut c t).2) := by
  induction s with
  | nil => rfl
  | cons d s ih =>
    rw [List.mem_cons, not_or] at h
    rw [List.cons_append, cut_cons, if_neg (Ne.symm h.1), ih h.2]
    rfl

/-- A text is put together again from its parts, the first of which the character is not in. -/
theorem cut_parts (c : Char) (s : List Char) :
    c ∉ (cut c s).1 ∧ s = (cut c s).1 ++ ((cut c s).2.map (c :: ·)).getD [] := by
  induction s with
  | nil => simp [cut_nil]
  | cons d s ih =>
    rw [cut_cons]
    by_cases h : d = c
    · simp [h]
    · rw [if_neg h, List.mem_cons, not_or]
      exact ⟨⟨Ne.symm h, ih.1⟩, congrArg (d :: ·) ih.2⟩

/-- What is left of a text up to a separator starts as the text does. -/
theorem head?_cut {d : Char} (h : d ∈ (cut c s).1.head?) : d ∈ s.head? ∧ d ≠ c := by
  cases s with
  | nil => cases h
  | cons e s =>
    rw [cut_cons] at h
    split at h
    next => cases h
    next he =>
      cases h
      exact ⟨rfl, he⟩

/-- In front of the query and the fragment there is neither of their marks, and what follows begins
with one. -/
theorem exists_query_fragment (s : List Char) :
    ∃ rest, s = (cut '?' (cut '#' s).1).1 ++ rest ∧
      (∀ c ∈ (cut '?' (cut '#' s).1).1, c ≠ '?' ∧ c ≠ '#') ∧
      ∀ c ∈ rest.head?, c = '?' ∨ c = '#' := by
  obtain ⟨hfragment, hwhole⟩ := cut_parts '#' s
  obtain ⟨hquery, hfront⟩ := cut_parts '?' (cut '#' s).1
  have hfront' : ∀ c ∈ (cut '?' (cut '#' s).1).1, c ∈ (cut '#' s).1 := by
    intro c hc
    rw [hfront]
    exact List.mem_append_left _ hc
  refine ⟨((cut '?' (cut '#' s).1).2.map ('?' :: ·)).getD [] ++
    ((cut '#' s).2.map ('#' :: ·)).getD [], ?_, fun c hc => ⟨?_, ?_⟩, ?_⟩
  · rw [← List.append_assoc, ← hfront]
    exact hwhole
  · rintro rfl
    exact hquery hc
  · rintro rfl
    exact hfragment (hfront' _ hc)
  · intro c hc
    cases hq : (cut '?' (cut '#' s).1).2 with
    | some query =>
      rw [hq] at hc
      exact .inl (Option.some.inj hc).symm
    | none =>
      cases hf : (cut '#' s).2 with
      | some fragment =>
        rw [hq, hf] at hc
        exact .inr (Option.some.inj hc).symm
      | none =>
        rw [hq, hf] at hc
        cases hc

theorem lastAt_of_not_mem (h : '@' ∉ s) : lastAt s = (none, s) := by
  unfold lastAt
  rw [takeWhile_ne_of_not_mem (by simpa using h), if_neg (by simp)]

theorem lastAt_append (s : List Char) (h : '@' ∉ t) : lastAt (s ++ '@' :: t) = (some s, t) := by
  have hlength : (s ++ '@' :: t).length = s.length + t.length + 1 := by simp [Nat.add_assoc]
  have htake : (s ++ '@' :: t).length - t.length - 1 = s.length := by omega
  unfold lastAt
  dsimp only
  rw [takeWhile_ne_reverse s h, List.length_reverse, if_pos (by omega), htake, List.take_left,
    List.reverse_reverse]

end Splitting

/-! The scheme. -/

def isSchemeChar (c : Char) : Bool := c.isAlphanum || c = '+' || c = '-' || c = '.'

/-- A scheme as it is written. -/
structure IsScheme (name : List Char) : Prop where
  start : name.head?.any Char.isAlpha = true
  chars : ∀ c ∈ name, isSchemeChar c = true

theorem scheme?_eq_some_iff {s rest scheme : List Char} :
    scheme? s = some (scheme, rest) ↔
      ∃ name, IsScheme name ∧ s = name ++ ':' :: rest ∧ scheme = name.map Char.toLower := by
  have hchars :
      (fun c : Char => c.isAlphanum || c = '+' || c = '-' || c = '.') = isSchemeChar := rfl
  unfold scheme?
  dsimp only
  rw [hchars, drop_length_takeWhile]
  constructor
  · intro h
    split at h
    next rest' hrest =>
      split at h
      next hstart =>
        cases h
        refine ⟨s.takeWhile isSchemeChar, ⟨hstart, fun c hc => List.mem_takeWhile_imp hc⟩, ?_, rfl⟩
        rw [← hrest, List.takeWhile_append_dropWhile]
      next => cases h
    next => cases h
  · rintro ⟨name, hname, rfl, rfl⟩
    have hstop : ∀ c ∈ (':' :: rest).head?, isSchemeChar c = false := by
      rintro c ⟨⟩
      decide
    rw [takeWhile_append_stop hname.chars hstop, dropWhile_append_stop hname.chars hstop]
    exact if_pos hname.start

/-! The authority. -/

section Authority

variable {scheme user host password s : List Char}

theorem userInfo_password (hu : ':' ∉ user) (hp : password ≠ []) :
    userInfo (user ++ ':' :: password) =
      (Percent.encode encodedInUser user, some (Percent.encode encodedInUser password)) := by
  unfold userInfo
  rw [cut_append hu, cut_cons, if_pos rfl]
  dsimp only
  rw [List.append_nil, Option.bind_some, keptPassword, if_neg hp]

/-- All that an authority makes of its password is to keep it. -/
theorem authority?_password (hu : ':' ∉ user) (hh : '@' ∉ host) (hp : password ≠ [])
    (more : Bool) :
    authority? scheme more (user ++ ':' :: (password ++ '@' :: host)) =
      (if hostPart false host = [] then none else authority? scheme false host).map fun a =>
        (⟨Percent.encode encodedInUser user, some (Percent.encode encodedInUser password), a.1.host,
          a.1.port⟩, a.2) := by
  have hassoc : user ++ ':' :: (password ++ '@' :: host) =
      (user ++ ':' :: password) ++ '@' :: host := by simp
  unfold authority?
  rw [hassoc, lastAt_append _ hh, lastAt_of_not_mem hh]
  dsimp only [Option.getD]
  rw [userInfo_password hu hp]
  by_cases hw : hostPart false host = []
  · simp [hw]
  · simp only [hw, false_and, if_false, Option.bind_eq_bind, Option.map_bind, Function.comp_def,
      Option.map_some]

/-- The password that an authority keeps is the one of its credentials. -/
theorem password_of_authority? {more : Bool} {a : UrlAuthority} {left : List Char}
    (h : authority? scheme more s = some (a, left)) :
    a.password = (userInfo ((lastAt s).1.getD [])).2 := by
  unfold authority? at h
  dsimp only at h
  split at h
  next => cases h
  next =>
    obtain ⟨_, -, h⟩ := Option.bind_eq_some_iff.mp h
    obtain ⟨_, -, h⟩ := Option.bind_eq_some_iff.mp h
    cases h
    rfl

theorem userInfo_eq_some {q : List Char} (h : (userInfo s).2 = some q) :
    ∃ user password, s = user ++ ':' :: password ∧ ':' ∉ user ∧ password ≠ [] ∧
      q = Percent.encode encodedInUser password := by
  have hbind : (cut ':' s).2.bind keptPassword = some q := h
  obtain ⟨password, hcut, hkept⟩ := Option.bind_eq_some_iff.mp hbind
  obtain ⟨hnot, hparts⟩ := cut_parts ':' s
  rw [hcut] at hparts
  obtain ⟨hne, heq⟩ := Option.ite_none_left_eq_some.mp hkept
  exact ⟨_, password, hparts, hnot, hne, (Option.some.inj heq).symm⟩

theorem exists_password_of_authority? {more : Bool} {a : UrlAuthority} {left q : List Char}
    (h : authority? scheme more s = some (a, left)) (hq : a.password = some q) :
    ∃ user password host, s = user ++ ':' :: (password ++ '@' :: host) ∧ ':' ∉ user ∧
      '@' ∉ host ∧ password ≠ [] ∧ q = Percent.encode encodedInUser password := by
  rw [password_of_authority? h] at hq
  by_cases hat : '@' ∈ s
  · obtain ⟨info, host, rfl, hhost⟩ := exists_last_separator hat
    rw [lastAt_append _ hhost] at hq
    obtain ⟨user, password, rfl, huser, hne, hq⟩ := userInfo_eq_some hq
    exact ⟨user, password, host, by simp, huser, hhost, hne, hq⟩
  · rw [lastAt_of_not_mem hat] at hq
    cases hq

end Authority

/-! The hierarchy. -/

/-- What ends an authority within the part of a URL that is read by scheme. -/
def endsAuthority (web : Bool) (c : Char) : Bool := c = '/' || web && c = '\\'

/-- The slashes before an authority. -/
def AreSlashes (web : Bool) (s : List Char) : Prop :=
  if web then ∀ c ∈ s, endsAuthority true c = true else s = ['/', '/']

/-- A backslash is a slash. -/
def slashed (c : Char) : Char := if c = '\\' then '/' else c

/-- The path behind an authority, which may have left the start of it over. -/
def pathBelow (web : Bool) (left path : List Char) : UrlPath :=
  if web then .segments (rootedSegments (left ++ path.map slashed))
  else .segments (if left ++ path = [] then [] else rootedSegments (left ++ path))

section Hierarchy

variable {scheme slashes authority path s : List Char} {more : Bool}

theorem otherHierarchy?_slashes (scheme s : List Char) (more : Bool) :
    otherHierarchy? scheme ('/' :: '/' :: s) more =
      (authority? scheme (s.dropWhile (· ≠ '/') ≠ [] || more) (s.takeWhile (· ≠ '/'))).map fun a =>
        ⟨some a.1, pathBelow false a.2 (s.dropWhile (· ≠ '/'))⟩ := by
  unfold otherHierarchy?
  exact Option.map_eq_bind.symm

theorem slashed_eq_slash_iff {c : Char} : slashed c = '/' ↔ endsAuthority true c = true := by
  unfold slashed endsAuthority
  split <;> simp_all

theorem map_slashed (h : ∀ c ∈ s, endsAuthority true c = false) : s.map slashed = s := by
  refine (List.map_congr_left fun c hc => ?_).trans s.map_id
  have hc := h c hc
  unfold slashed endsAuthority at *
  split <;> simp_all

theorem otherHierarchy?_authority (hauthority : ∀ c ∈ authority, endsAuthority false c = false)
    (hpath : ∀ c ∈ path.head?, endsAuthority false c = true) :
    otherHierarchy? scheme ('/' :: '/' :: (authority ++ path)) more =
      (authority? scheme (path ≠ [] || more) authority).map fun a =>
        ⟨some a.1, pathBelow false a.2 path⟩ := by
  have hchars : ∀ c ∈ authority, decide (c ≠ '/') = true := by
    simpa [endsAuthority] using hauthority
  have hstop : ∀ c ∈ path.head?, decide (c ≠ '/') = false := by
    simpa [endsAuthority] using hpath
  rw [otherHierarchy?_slashes, takeWhile_append_stop hchars hstop,
    dropWhile_append_stop hchars hstop]

theorem webHierarchy?_authority (hslashes : ∀ c ∈ slashes, endsAuthority true c = true)
    (hauthority : ∀ c ∈ authority, endsAuthority true c = false)
    (hpath : ∀ c ∈ path.head?, endsAuthority true c = true) (hne : authority = [] → path = []) :
    webHierarchy? scheme ((slashes ++ (authority ++ path)).map slashed) more =
      (authority? scheme (path ≠ [] || more) authority).map fun a =>
        ⟨some a.1, pathBelow true a.2 path⟩ := by
  have hmap : (slashes ++ (authority ++ path)).map slashed =
      slashes.map slashed ++ (authority ++ path.map slashed) := by
    rw [List.map_append, List.map_append, map_slashed hauthority]
  have hdrop : (slashes.map slashed ++ (authority ++ path.map slashed)).dropWhile isSlash =
      authority ++ path.map slashed := by
    refine dropWhile_append_stop ?_ ?_
    · simpa [isSlash, slashed_eq_slash_iff] using hslashes
    · cases authority with
      | nil => simp [hne rfl]
      | cons c rest =>
        rintro _ ⟨⟩
        have := hauthority c List.mem_cons_self
        simp_all [isSlash, endsAuthority]
  have hchars : ∀ c ∈ authority, decide (c ≠ '/') = true := by
    intro c hc
    have := hauthority c hc
    simp_all [endsAuthority]
  have hstop : ∀ c ∈ (path.map slashed).head?, decide (c ≠ '/') = false := by
    cases path with
    | nil => exact nofun
    | cons c rest =>
      rintro _ ⟨⟩
      simp [slashed_eq_slash_iff.mpr (hpath c rfl)]
  unfold webHierarchy?
  dsimp only
  rw [hmap, hdrop, takeWhile_append_stop hchars hstop, dropWhile_append_stop hchars hstop]
  simp only [ne_eq, List.map_eq_nil_iff]
  exact Option.map_eq_bind.symm

/-- A text that is an authority between the slashes before it and the path behind it. -/
structure Places (web : Bool) (slashes authority path : List Char) : Prop where
  before : AreSlashes web slashes
  within : ∀ c ∈ authority, endsAuthority web c = false
  behind : ∀ c ∈ path.head?, endsAuthority web c = true
  empty : web = true → authority = [] → path = []

theorem hierarchy?_authority (hfile : isFile scheme = false)
    (h : Places (isWeb scheme) slashes authority path) :
    hierarchy? scheme (slashes ++ (authority ++ path)) more =
      (authority? scheme (path ≠ [] || more) authority).map fun a =>
        ⟨some a.1, pathBelow (isWeb scheme) a.2 path⟩ := by
  obtain ⟨hslashes, hauthority, hpath, hnothing⟩ := h
  unfold hierarchy?
  rw [hfile, if_neg Bool.false_ne_true]
  cases hweb : isWeb scheme with
  | false =>
    rw [hweb] at hslashes hauthority hpath
    obtain rfl : slashes = ['/', '/'] := hslashes
    exact otherHierarchy?_authority hauthority hpath
  | true =>
    rw [hweb] at hslashes hauthority hpath hnothing
    exact webHierarchy?_authority hslashes hauthority hpath (hnothing rfl)

/-- Files are not asked for with a password. -/
theorem password_of_fileHierarchy? {h : Hierarchy} {a : UrlAuthority} (hh : fileHierarchy? s = some h)
    (ha : h.authority = some a) : a.password = none := by
  unfold fileHierarchy? at hh
  dsimp only at hh
  split at hh
  all_goals
    split at hh
    next =>
      cases hh
      cases ha
      rfl
    next =>
      obtain ⟨_, -, hh⟩ := Option.bind_eq_some_iff.mp hh
      cases hh
      cases ha
      rfl

theorem exists_places (web : Bool) {slashes s : List Char} (hslashes : AreSlashes web slashes)
    (hs : web = true → ∀ c ∈ s.head?, endsAuthority web c = false) :
    ∃ authority path, s = authority ++ path ∧ Places web slashes authority path := by
  refine ⟨s.takeWhile (!endsAuthority web ·), s.dropWhile (!endsAuthority web ·),
    (List.takeWhile_append_dropWhile).symm, hslashes, ?_, ?_, ?_⟩
  · intro c hc
    simpa using List.mem_takeWhile_imp hc
  · intro c hc
    simpa using head?_dropWhile hc
  · intro hweb hnil
    cases s with
    | nil => rfl
    | cons c rest =>
      have hc := hs hweb c rfl
      simp [hc] at hnil

theorem exists_authority_of_hierarchy? {h : Hierarchy} {a : UrlAuthority}
    (hh : hierarchy? scheme s more = some h) (ha : h.authority = some a) (hq : a.password ≠ none) :
    isFile scheme = false ∧ ∃ slashes authority path left, s = slashes ++ (authority ++ path) ∧
      Places (isWeb scheme) slashes authority path ∧
      authority? scheme (path ≠ [] || more) authority = some (a, left) := by
  have hfile : isFile scheme = false := by
    rw [Bool.eq_false_iff]
    intro hfile
    unfold hierarchy? at hh
    rw [if_pos hfile] at hh
    exact hq (password_of_fileHierarchy? hh ha)
  have hsplit : ∃ slashes rest, s = slashes ++ rest ∧ AreSlashes (isWeb scheme) slashes ∧
      (isWeb scheme = true → ∀ c ∈ rest.head?, endsAuthority (isWeb scheme) c = false) := by
    cases hweb : isWeb scheme with
    | false =>
      unfold hierarchy? at hh
      rw [hfile, if_neg Bool.false_ne_true, hweb, if_neg Bool.false_ne_true] at hh
      unfold otherHierarchy? at hh
      split at hh
      next rest => exact ⟨['/', '/'], rest, rfl, rfl, nofun⟩
      next =>
        cases hh
        cases ha
      next =>
        cases hh
        cases ha
    | true =>
      refine ⟨s.takeWhile (endsAuthority true), s.dropWhile (endsAuthority true),
        List.takeWhile_append_dropWhile.symm, fun c hc => List.mem_takeWhile_imp hc,
        fun _ _ => head?_dropWhile⟩
  obtain ⟨slashes, rest, rfl, hslashes, hrest⟩ := hsplit
  obtain ⟨authority, path, rfl, hplaces⟩ := exists_places (isWeb scheme) hslashes hrest
  rw [hierarchy?_authority hfile hplaces] at hh
  obtain ⟨⟨a', left⟩, ha', rfl⟩ := Option.map_eq_some_iff.mp hh
  cases ha
  exact ⟨hfile, slashes, authority, path, left, rfl, hplaces, ha'⟩

end Hierarchy

/-! The text of a URL around its password. -/

/-- What an authority can be followed by. -/
def isDelimiter (web : Bool) (c : Char) : Bool := endsAuthority web c || c = '?' || c = '#'

theorem isDelimiter_eq_false_iff {web : Bool} {c : Char} :
    isDelimiter web c = false ↔ endsAuthority web c = false ∧ c ≠ '?' ∧ c ≠ '#' := by
  simp [isDelimiter, and_assoc]

/-- A URL with a gap where its password stands: after the first colon of the authority and before
its last at sign. -/
structure Frame where
  name : List Char
  slashes : List Char
  user : List Char
  host : List Char
  rest : List Char
  isScheme : IsScheme name
  notFile : isFile (name.map Char.toLower) = false
  areSlashes : AreSlashes (isWeb (name.map Char.toLower)) slashes
  user_chars : ∀ c ∈ user, c ≠ ':' ∧ isDelimiter (isWeb (name.map Char.toLower)) c = false
  host_chars : ∀ c ∈ host, c ≠ '@' ∧ isDelimiter (isWeb (name.map Char.toLower)) c = false
  rest_head : ∀ c ∈ rest.head?, isDelimiter (isWeb (name.map Char.toLower)) c = true

namespace Frame

variable {f : Frame} {password : List Char}

def scheme (f : Frame) : List Char := f.name.map Char.toLower

/-- The text with a password in the gap. -/
def text (f : Frame) (password : List Char) : List Char :=
  f.name ++ ':' :: (f.slashes ++ ((f.user ++ ':' :: (password ++ '@' :: f.host)) ++ f.rest))

/-- What the gap takes for a password. -/
structure Fits (f : Frame) (password : List Char) : Prop where
  ne_nil : password ≠ []
  chars : ∀ c ∈ password, isDelimiter (isWeb f.scheme) c = false

theorem Fits.authority_chars (h : f.Fits password) :
    ∀ c ∈ f.user ++ ':' :: (password ++ '@' :: f.host), isDelimiter (isWeb f.scheme) c = false := by
  intro c hc
  simp only [List.mem_append, List.mem_cons] at hc
  rcases hc with hc | rfl | hc | rfl | hc
  · exact (f.user_chars c hc).2
  · cases isWeb f.scheme <;> decide
  · exact h.chars c hc
  · cases isWeb f.scheme <;> decide
  · exact (f.host_chars c hc).2

end Frame

theorem not_mem_of_areSlashes {web : Bool} {s : List Char} (h : AreSlashes web s) {c : Char}
    (hc : endsAuthority true c = false) : c ∉ s := by
  unfold AreSlashes at h
  split at h
  next =>
    intro hmem
    rw [h c hmem] at hc
    cases hc
  next =>
    subst h
    rintro hmem
    have hslash : c = '/' := by simpa using hmem
    rw [hslash] at hc
    cases hc

namespace Frame

variable {f : Frame} {password : List Char}

/-- The part of the text that is read by scheme is the authority between slashes and a path. -/
theorem Fits.places (h : f.Fits password) : Places (isWeb f.scheme) f.slashes
    (f.user ++ ':' :: (password ++ '@' :: f.host)) (cut '?' (cut '#' f.rest).1).1 where
  before := f.areSlashes
  within c hc := (isDelimiter_eq_false_iff.mp (h.authority_chars c hc)).1
  behind c hc := by
    obtain ⟨hc, hquery⟩ := head?_cut hc
    obtain ⟨hc, hfragment⟩ := head?_cut hc
    have := f.rest_head c hc
    simp_all [isDelimiter, scheme]
  empty _ hnil := by simp at hnil

theorem Fits.cut_append (h : f.Fits password) {c : Char} (hc : c = '?' ∨ c = '#')
    (s : List Char) :
    cut c (f.slashes ++ ((f.user ++ ':' :: (password ++ '@' :: f.host)) ++ s)) =
      (f.slashes ++ ((f.user ++ ':' :: (password ++ '@' :: f.host)) ++ (cut c s).1),
        (cut c s).2) := by
  have hslashes : c ∉ f.slashes :=
    not_mem_of_areSlashes f.areSlashes (by rcases hc with rfl | rfl <;> decide)
  have hauthority : c ∉ f.user ++ ':' :: (password ++ '@' :: f.host) := by
    intro hmem
    obtain ⟨-, hquery, hfragment⟩ := isDelimiter_eq_false_iff.mp (h.authority_chars c hmem)
    exact hc.elim hquery hfragment
  rw [Url.cut_append hslashes, Url.cut_append hauthority]

/-- The URL around a password, given what is read after the last at sign of its authority. -/
def url (f : Frame) (a : UrlAuthority × List Char) (password : List Char) : Url where
  scheme := f.scheme
  authority := some ⟨Percent.encode encodedInUser f.user,
    some (Percent.encode encodedInUser password), a.1.host, a.1.port⟩
  path := pathBelow (isWeb f.scheme) a.2 (cut '?' (cut '#' f.rest).1).1
  query := (cut '?' (cut '#' f.rest).1).2.map (Percent.encode (encodedInQuery (isWeb f.scheme)))
  fragment := (cut '#' f.rest).2.map (Percent.encode encodedInFragment)

/-- What is read after the last at sign. -/
def behind? (f : Frame) : Option (UrlAuthority × List Char) :=
  if hostPart false f.host = [] then none else authority? f.scheme false f.host

/-- Whatever stands in the gap becomes the password, and nothing else. -/
theorem parse?_eq (f : Frame) {d : String} {password : List Char} (hfits : f.Fits password)
    (hd : cleaned d = f.text password) :
    parse? d = f.behind?.map fun a => f.url a password := by
  have hscheme : scheme? (f.text password) = some (f.scheme, _) :=
    scheme?_eq_some_iff.mpr ⟨f.name, f.isScheme, rfl, rfl⟩
  have hfile : isFile f.scheme = false := f.notFile
  have huser : ':' ∉ f.user := fun h => (f.user_chars _ h).1 rfl
  have hhost : '@' ∉ f.host := fun h => (f.host_chars _ h).1 rfl
  unfold parse?
  rw [hd, hscheme, Option.bind_eq_bind, Option.bind_some]
  dsimp only
  rw [hfits.cut_append (.inr rfl)]
  dsimp only
  rw [hfits.cut_append (.inl rfl)]
  dsimp only
  rw [hierarchy?_authority hfile hfits.places, authority?_password huser hhost hfits.ne_nil]
  unfold behind?
  cases (if hostPart false f.host = [] then none else authority? f.scheme false f.host) <;> rfl

end Frame

/-- Every URL with a password has it in the gap of a frame. -/
theorem exists_frame {d : String} {u : Url} {q : List Char} (h : parse? d = some u)
    (hq : u.password? = some q) :
    ∃ (f : Frame) (password : List Char), f.Fits password ∧ cleaned d = f.text password ∧
      q = Percent.encode encodedInUser password := by
  unfold parse? at h
  obtain ⟨⟨scheme, body⟩, hscheme, h⟩ := Option.bind_eq_some_iff.mp h
  dsimp only at h
  obtain ⟨hi, hhi, h⟩ := Option.bind_eq_some_iff.mp h
  cases h
  obtain ⟨name, hname, hd, rfl⟩ := scheme?_eq_some_iff.mp hscheme
  obtain ⟨a, ha, haq⟩ := Option.bind_eq_some_iff.mp hq
  obtain ⟨hfile, slashes, authority, path, left, hbody, hplaces, hauthority⟩ :=
    exists_authority_of_hierarchy? hhi ha (by simp [haq])
  obtain ⟨user, password, host, rfl, huser, hhost, hne, rfl⟩ :=
    exists_password_of_authority? hauthority haq
  obtain ⟨after, hsplit, hmarks, hafter⟩ := exists_query_fragment body
  have hchars : ∀ c ∈ user ++ ':' :: (password ++ '@' :: host),
      isDelimiter (isWeb (name.map Char.toLower)) c = false := by
    intro c hc
    refine isDelimiter_eq_false_iff.mpr ⟨hplaces.within c hc, hmarks c ?_⟩
    rw [hbody]
    exact List.mem_append_right _ (List.mem_append_left _ hc)
  simp only [List.forall_mem_append, List.forall_mem_cons] at hchars
  obtain ⟨huserChars, -, hpasswordChars, -, hhostChars⟩ := hchars
  have hrest : ∀ c ∈ (path ++ after).head?,
      isDelimiter (isWeb (name.map Char.toLower)) c = true := by
    intro c hc
    cases path with
    | cons e path =>
      cases hc
      simp [isDelimiter, hplaces.behind _ rfl]
    | nil => rcases hafter c hc with rfl | rfl <;> simp [isDelimiter]
  have htext : body =
      slashes ++ ((user ++ ':' :: (password ++ '@' :: host)) ++ (path ++ after)) := by
    rw [hbody] at hsplit
    simpa only [List.append_assoc] using hsplit
  exact ⟨⟨name, slashes, user, host, path ++ after, hname, hfile, hplaces.before,
    fun c hc => ⟨fun h => huser (h ▸ hc), huserChars c hc⟩,
    fun c hc => ⟨fun h => hhost (h ▸ hc), hhostChars c hc⟩, hrest⟩,
    password, ⟨hne, hpasswordChars⟩, by rw [hd, htext]; rfl, rfl⟩

end Turnstile.Url
