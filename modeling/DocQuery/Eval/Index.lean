import DocQuery.Calendar.Date
import DocQuery.Eval.Error
import DocQuery.Eval.Scope

/-!
Indexing of values, by `object[index]` and `object.name` alike.
-/

namespace DocQuery.Value

/-- The place that a number means in a sequence: a whole number that is not negative. -/
def place? (n : Number) : Option Nat := if n.isWhole && !n.isNegative then some n.toCount else none

def ofNumber? : Option Number → Value
  | some n => number n
  | none => null

mutual

/-- The part of a value under an index. What is missing is null. A text as an index of an array is
taken for each of its elements. -/
def index (links : Links) : Value → Value → Outcome Value
  | _, null => .ok null
  | null, _ => .ok null
  | object fields, string name => .ok (Object.get fields name)
  | object _, key => .error (.indexType .object key.type)
  | link l, string name => .ok (((links.page? l.path).map fun page => page.get name).getD null)
  | link _, key => .error (.indexType .link key.type)
  | array items, number n => .ok (((place? n).bind fun place => items[place]?).getD null)
  | array items, string name => .ok (array (indexItems links items (string name)))
  | string s, number n =>
    .ok (.ofText? (((place? n).bind fun place => s.toList[place]?).map Char.toString))
  | date d, string name => .ok (ofNumber? (d.component? name))
  | duration d, string name => .ok (ofNumber? (d.component? name))
  | _, _ => .ok null

/-- The parts of items under an index; items that cannot be indexed are left out. -/
def indexItems (links : Links) : List Value → Value → List Value
  | [], _ => []
  | item :: rest, key =>
    match index links item key with
    | .ok v => v :: indexItems links rest key
    | .error _ => indexItems links rest key

end

end DocQuery.Value
