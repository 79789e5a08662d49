/-!
Lists of things under names. Each name occurs once, and the names keep the order in which they were
first set.
-/

namespace DocQuery

/-- Things under names. -/
abbrev Keyed (α : Type) := List (String × α)

namespace Keyed

variable {α β : Type}

def get? (k : Keyed α) (name : String) : Option α := k.lookup name

def has (k : Keyed α) (name : String) : Bool := k.any fun (key, _) => key == name

/-- Puts a thing under a name: in the old place of the name, or at the end when the name is new. -/
def set : Keyed α → String → α → Keyed α
  | [], name, value => [(name, value)]
  | (key, old) :: rest, name, value =>
    if key = name then (key, value) :: rest else (key, old) :: set rest name value

/-- Removes a name; the others keep their order. -/
def remove (k : Keyed α) (name : String) : Keyed α := k.filter fun (key, _) => key != name

/-- The first list overlaid with the second. -/
def merge (k new : Keyed α) : Keyed α := new.foldl (fun k (name, value) => set k name value) k

/-- The result of putting things under their names one after the other. -/
def ofList (entries : List (String × α)) : Keyed α := merge [] entries

def names (k : Keyed α) : List String := k.map Prod.fst

end Keyed

end DocQuery
