/-!
Sets of texts as ascending lists without repetitions, and things under texts in ascending order. Equal
contents have equal lists, whatever the order of insertion.
-/

namespace DocQuery.Ordered

variable {α : Type}

def insert (x : String) : List String → List String
  | [] => [x]
  | y :: rest => if y < x then y :: insert x rest else if y = x then y :: rest else x :: y :: rest

def ofList (xs : List String) : List String := xs.foldl (fun set x => insert x set) []

def union (xs ys : List String) : List String := ys.foldl (fun set y => insert y set) xs

def inter (xs ys : List String) : List String := xs.filter ys.contains

def diff (xs ys : List String) : List String := xs.filter fun x => !ys.contains x

/-- Puts a thing under a text; it replaces an earlier one. -/
def put (key : String) (value : α) : List (String × α) → List (String × α)
  | [] => [(key, value)]
  | (other, old) :: rest =>
    if other < key then (other, old) :: put key value rest
    else if other = key then (key, value) :: rest
    else (key, value) :: (other, old) :: rest

/-- The set under a text; empty when there is none. -/
def setAt (sets : List (String × List String)) (key : String) : List String :=
  (sets.lookup key).getD []

def insertAt (key x : String) (sets : List (String × List String)) : List (String × List String) :=
  put key (insert x (setAt sets key)) sets

end DocQuery.Ordered
