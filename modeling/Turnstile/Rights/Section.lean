import Turnstile.Error
import Turnstile.Text.Screaming

/-!
The sections that rights are given for, in their own order. The order of their names as text is a
different one.
-/

namespace Turnstile

inductive Section where
  | orders | productsBase | products | pricelist | productsAdd | catalog | char | history
  deriving DecidableEq, Repr

namespace Section

def all : List Section :=
  [.orders, .productsBase, .products, .pricelist, .productsAdd, .catalog, .char, .history]

theorem mem_all (s : Section) : s ∈ all := by cases s <;> decide

theorem nodup_all : all.Nodup := by decide

def name : Section → String
  | .orders => "ORDERS"
  | .productsBase => "PRODUCTS_BASE"
  | .products => "PRODUCTS"
  | .pricelist => "PRICELIST"
  | .productsAdd => "PRODUCTS_ADD"
  | .catalog => "CATALOG"
  | .char => "CHAR"
  | .history => "HISTORY"

/-- What a section is called in the program. -/
def identifier : Section → String
  | .orders => "Orders"
  | .productsBase => "ProductsBase"
  | .products => "Products"
  | .pricelist => "Pricelist"
  | .productsAdd => "ProductsAdd"
  | .catalog => "Catalog"
  | .char => "Char"
  | .history => "History"

/-- The name under which a section is stored. -/
def storedName (s : Section) : String := Text.screaming s.identifier

def ofStoredName? (s : String) : Option Section := all.find? (·.storedName = s)

def ofName? (s : String) : Option Section := all.find? (·.name = s)

def parse (s : String) : Except Error Section :=
  match ofName? s with
  | some x => .ok x
  | none => .error (.invalidSection s)

@[simp] theorem ofName?_name (s : Section) : ofName? s.name = some s := by cases s <;> rfl

@[simp] theorem parse_name (s : Section) : parse s.name = .ok s := by cases s <;> rfl

theorem name_injective {s t : Section} (h : s.name = t.name) : s = t := by
  have := congrArg ofName? h
  simpa using this

end Section

end Turnstile
