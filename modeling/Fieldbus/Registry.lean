/-! Tables from names to values, in the order of the names. -/

namespace Fieldbus

/-- A table; `insert` keeps it sorted by name, with one value for a name. -/
structure Registry (α : Type) where
  entries : List (String × α) := []

namespace Registry

variable {α : Type}

/-- The sorted list with a value for `name`, in place of an earlier one. -/
def insertEntry (name : String) (value : α) : List (String × α) → List (String × α)
  | [] => [(name, value)]
  | (n, v) :: rest =>
    if name = n then (name, value) :: rest
    else if name < n then (name, value) :: (n, v) :: rest
    else (n, v) :: insertEntry name value rest

def insert (r : Registry α) (name : String) (value : α) : Registry α :=
  ⟨insertEntry name value r.entries⟩

def get? (r : Registry α) (name : String) : Option α := r.entries.lookup name

def names (r : Registry α) : List String := r.entries.map (·.1)

def size (r : Registry α) : Nat := r.entries.length

def ofList (entries : List (String × α)) : Registry α :=
  entries.foldl (fun r (name, value) => r.insert name value) {}

end Registry
end Fieldbus
