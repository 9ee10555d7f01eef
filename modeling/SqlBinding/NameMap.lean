/-!
# Maps from names

Finite maps from names, in the order in which the names first came in. A later entry of a name takes
the place of the earlier one.
-/

set_option autoImplicit false

namespace SqlBinding

/-- A finite map from names. -/
structure NameMap (α : Type) where
  entries : List (String × α)
  deriving DecidableEq, Repr

namespace NameMap

variable {α : Type}

/-- The map without entries. -/
def empty : NameMap α := ⟨[]⟩

/-- Puts an entry into a list of entries, in the place of the one of its name if there is one. -/
def insertEntry (name : String) (value : α) : List (String × α) → List (String × α)
  | [] => [(name, value)]
  | (n, v) :: rest =>
    if n = name then (n, value) :: rest else (n, v) :: insertEntry name value rest

/-- The map with `value` under `name`. -/
def insert (m : NameMap α) (name : String) (value : α) : NameMap α :=
  ⟨insertEntry name value m.entries⟩

/-- The value under a name. -/
def get? (m : NameMap α) (name : String) : Option α := m.entries.lookup name

/-- The names in order. -/
def names (m : NameMap α) : List String := m.entries.map (·.1)

/-- Number of entries. -/
def size (m : NameMap α) : Nat := m.entries.length

/-- Whether there are no entries. -/
def isEmpty (m : NameMap α) : Bool := m.entries.isEmpty

/-- The entries in the order of their names. -/
def sorted (m : NameMap α) : List (String × α) :=
  m.entries.mergeSort fun a b => a.1 ≤ b.1

end NameMap

end SqlBinding
