/-!
# Tables

Values by name, in the order in which the names first came up. A new value for a name takes the
place of the old one.
-/

set_option autoImplicit false

namespace ScopeHoist

abbrev Table (α : Type) := List (String × α)

namespace Table

variable {α : Type}

def names (table : Table α) : List String := table.map Prod.fst

def values (table : Table α) : List α := table.map Prod.snd

def get? (table : Table α) (name : String) : Option α := table.lookup name

def has (table : Table α) (name : String) : Bool := (table.get? name).isSome

def insert (table : Table α) (name : String) (value : α) : Table α :=
  match table with
  | [] => [(name, value)]
  | entry :: rest =>
    if entry.1 == name then (name, value) :: rest else entry :: Table.insert rest name value

def insertAll (table : Table α) (entries : List (String × α)) : Table α :=
  entries.foldl (fun table entry => table.insert entry.1 entry.2) table

end Table

/-- Puts a value behind all others, unless it is there already. -/
def addNew {α : Type} [BEq α] (values : List α) (value : α) : List α :=
  if values.contains value then values else values ++ [value]

end ScopeHoist
