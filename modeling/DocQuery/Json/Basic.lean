import DocQuery.Number.Text

/-!
Documents of the exchange notation. Objects keep their members as they were written, also repeated
ones; whoever reads an object decides what a repetition means.
-/

namespace DocQuery

/-- A document of the exchange notation. Whole numbers of 64 bits are kept apart from all others. -/
inductive Json where
  | null
  | bool (b : Bool)
  | integer (i : Int)
  | float (n : Number)
  | string (s : String)
  | array (items : List Json)
  | object (members : List (String × Json))
  deriving Inhabited

namespace Json

/-- Puts a member into a list sorted by name; a member of the same name is replaced. -/
def insertMember (member : String × Json) : List (String × Json) → List (String × Json)
  | [] => [member]
  | other :: rest =>
    if other.1 < member.1 then other :: insertMember member rest
    else if other.1 = member.1 then member :: rest
    else member :: other :: rest

/-- Members sorted by name; of repeated members the last one counts. -/
def sorted (members : List (String × Json)) : List (String × Json) :=
  members.foldl (fun result member => insertMember member result) []

/-- An object with its members sorted by name. -/
def ofMembers (members : List (String × Json)) : Json := object (sorted members)

end Json

end DocQuery
