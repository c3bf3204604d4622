import Turnstile.Error
import Turnstile.Text.Screaming

/-!
Permissions inside a section, as a set: four flags, listed in one fixed order.
-/

namespace Turnstile

inductive Permission where
  | read | create | update | delete
  deriving DecidableEq, Repr

namespace Permission

def all : List Permission := [.read, .create, .update, .delete]

theorem mem_all (p : Permission) : p ∈ all := by cases p <;> decide

def name : Permission → String
  | .read => "READ"
  | .create => "CREATE"
  | .update => "UPDATE"
  | .delete => "DELETE"

/-- What a permission is called in the program. -/
def identifier : Permission → String
  | .read => "Read"
  | .create => "Create"
  | .update => "Update"
  | .delete => "Delete"

/-- The name under which a permission is stored. -/
def storedName (p : Permission) : String := Text.screaming p.identifier

def ofStoredName? (s : String) : Option Permission := all.find? (·.storedName = s)

def parse (s : String) : Except Error Permission :=
  match all.find? (·.name = s) with
  | some p => .ok p
  | none => .error (.invalidPermission s)

@[simp] theorem parse_name (p : Permission) : parse p.name = .ok p := by cases p <;> rfl

end Permission

@[ext] structure PermissionSet where
  read : Bool
  create : Bool
  update : Bool
  delete : Bool
  deriving DecidableEq, Repr

namespace PermissionSet

def contains (s : PermissionSet) : Permission → Bool
  | .read => s.read
  | .create => s.create
  | .update => s.update
  | .delete => s.delete

def ofFn (f : Permission → Bool) : PermissionSet := ⟨f .read, f .create, f .update, f .delete⟩

@[simp] theorem contains_ofFn (f : Permission → Bool) (p : Permission) :
    (ofFn f).contains p = f p := by cases p <;> rfl

theorem ext_contains {s t : PermissionSet} (h : ∀ p, s.contains p = t.contains p) : s = t := by
  ext1
  · exact h .read
  · exact h .create
  · exact h .update
  · exact h .delete

def empty : PermissionSet := ofFn fun _ => false

def ofList (ps : List Permission) : PermissionSet := ofFn ps.contains

def toList (s : PermissionSet) : List Permission := Permission.all.filter s.contains

def isEmpty (s : PermissionSet) : Bool := s.toList.isEmpty

def union (s t : PermissionSet) : PermissionSet := ofFn fun p => s.contains p || t.contains p

def diff (s t : PermissionSet) : PermissionSet := ofFn fun p => s.contains p && !t.contains p

@[simp] theorem contains_empty (p : Permission) : empty.contains p = false := by simp [empty]

@[simp] theorem contains_union (s t : PermissionSet) (p : Permission) :
    (s.union t).contains p = (s.contains p || t.contains p) := by simp [union]

@[simp] theorem contains_diff (s t : PermissionSet) (p : Permission) :
    (s.diff t).contains p = (s.contains p && !t.contains p) := by simp [diff]

@[simp] theorem contains_ofList (ps : List Permission) (p : Permission) :
    (ofList ps).contains p = ps.contains p := by simp [ofList]

@[simp] theorem mem_toList (s : PermissionSet) (p : Permission) :
    p ∈ s.toList ↔ s.contains p = true := by simp [toList, Permission.mem_all]

theorem isEmpty_iff {s : PermissionSet} : s.isEmpty = true ↔ ∀ p, s.contains p = false := by
  simp only [isEmpty, List.isEmpty_iff, toList, List.filter_eq_nil_iff, Bool.not_eq_true]
  exact ⟨fun h p => h p (Permission.mem_all p), fun h p _ => h p⟩

/-- The names of a set, in the fixed order. -/
def names (s : PermissionSet) : List String := s.toList.map Permission.name

/-- A list of names as a set; the first unknown name is reported. -/
def parse (names : List String) : Except Error PermissionSet := do
  return ofList (← names.mapM Permission.parse)

end PermissionSet

end Turnstile
