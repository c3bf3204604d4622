import Turnstile.Rights.Permission
import Turnstile.Rights.Section

/-!
Rights: for each section that occurs, a set of permissions, which may be empty. A section that occurs
with an empty set is told apart from one that does not occur. Two maps with the same entries are
equal, so laws are stated entry by entry.
-/

namespace Turnstile

@[ext] structure Rights where
  orders : Option PermissionSet
  productsBase : Option PermissionSet
  products : Option PermissionSet
  pricelist : Option PermissionSet
  productsAdd : Option PermissionSet
  catalog : Option PermissionSet
  char : Option PermissionSet
  history : Option PermissionSet
  deriving DecidableEq, Repr

namespace Rights

def get? (r : Rights) : Section → Option PermissionSet
  | .orders => r.orders
  | .productsBase => r.productsBase
  | .products => r.products
  | .pricelist => r.pricelist
  | .productsAdd => r.productsAdd
  | .catalog => r.catalog
  | .char => r.char
  | .history => r.history

def ofFn (f : Section → Option PermissionSet) : Rights :=
  ⟨f .orders, f .productsBase, f .products, f .pricelist, f .productsAdd, f .catalog, f .char,
    f .history⟩

@[simp] theorem get?_ofFn (f : Section → Option PermissionSet) (s : Section) :
    (ofFn f).get? s = f s := by cases s <;> rfl

theorem ext_get? {r t : Rights} (h : ∀ s, r.get? s = t.get? s) : r = t := by
  ext1
  · exact h .orders
  · exact h .productsBase
  · exact h .products
  · exact h .pricelist
  · exact h .productsAdd
  · exact h .catalog
  · exact h .char
  · exact h .history

def empty : Rights := ofFn fun _ => none

@[simp] theorem get?_empty (s : Section) : empty.get? s = none := by simp [empty]

/-- The entry of one section replaced. -/
def set (r : Rights) (s : Section) (entry : Option PermissionSet) : Rights :=
  ofFn fun t => if t = s then entry else r.get? t

@[simp] theorem get?_set (r : Rights) (s t : Section) (entry : Option PermissionSet) :
    (r.set s entry).get? t = if t = s then entry else r.get? t := by simp [set]

def put (r : Rights) (s : Section) (ps : PermissionSet) : Rights := r.set s (some ps)

def remove (r : Rights) (s : Section) : Rights := r.set s none

@[simp] theorem get?_put (r : Rights) (s t : Section) (ps : PermissionSet) :
    (r.put s ps).get? t = if t = s then some ps else r.get? t := by simp [put]

@[simp] theorem get?_remove (r : Rights) (s t : Section) :
    (r.remove s).get? t = if t = s then none else r.get? t := by simp [remove]

/-- Adds permissions to a section, which occurs from then on. -/
def insert (r : Rights) (s : Section) (ps : PermissionSet) : Rights :=
  r.put s (((r.get? s).getD .empty).union ps)

def contains (r : Rights) (s : Section) (p : Permission) : Bool := (r.get? s).any (·.contains p)

/-- The sections that occur, in order, with their sets. -/
def entries (r : Rights) : List (Section × PermissionSet) :=
  Section.all.filterMap fun s => (r.get? s).map fun ps => (s, ps)

@[simp] theorem mem_entries {r : Rights} {s : Section} {ps : PermissionSet} :
    (s, ps) ∈ r.entries ↔ r.get? s = some ps := by
  simp [entries, Section.mem_all]

def size (r : Rights) : Nat := r.entries.length

def isEmpty (r : Rights) : Bool := r.entries.isEmpty

theorem isEmpty_iff {r : Rights} : r.isEmpty = true ↔ r = empty := by
  simp only [isEmpty, List.isEmpty_iff, entries, List.filterMap_eq_nil_iff, Option.map_eq_none_iff]
  constructor
  · intro h
    exact ext_get? fun s => by simpa using h s (Section.mem_all s)
  · rintro rfl s _
    simp

/-- No section occurs without a permission. -/
def Compact (r : Rights) : Prop := ∀ s ps, r.get? s = some ps → ps.isEmpty = false

/-- Sections without permissions dropped. -/
def compact (r : Rights) : Rights := ofFn fun s => (r.get? s).filter (!·.isEmpty)

@[simp] theorem get?_compact (r : Rights) (s : Section) :
    r.compact.get? s = (r.get? s).filter (!·.isEmpty) := by simp [compact]

theorem compact_compact (r : Rights) : r.compact.Compact := by
  intro s ps h
  simp only [get?_compact, Option.filter_eq_some_iff] at h
  simpa using h.2

end Rights

end Turnstile
