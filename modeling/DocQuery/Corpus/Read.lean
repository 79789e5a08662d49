import DocQuery.Corpus
import DocQuery.Json.Record
import DocQuery.Value.Exchange

/-!
Reading documents from the exchange notation. Unknown members of a document are ignored; those of a
task are its further fields.
-/

namespace DocQuery

def Object.ofJson? : Json → Option Object
  | .object members => some (Value.fieldsOfJson members)
  | _ => none

namespace Task

def memberNames : List String := ["text", "completed", "line"]

/-- Reads a task, which is always written as an object. -/
def ofJson? : Json → Option Task
  | .object members => do
    return {
      text := ← Json.required? members "text" Json.toText?
      completed := ← Json.optional? members "completed" false Json.toBool?
      line := ← Json.optional? members "line" none Json.toNat64?
      fields := Value.fieldsOfJson (members.filter fun (name, _) => !memberNames.contains name) }
  | _ => none

end Task

namespace Document

def memberNames : List String := ["path", "tags", "links", "tasks", "fields"]

def ofJson? (j : Json) : Option Document := do
  let members ← Json.record? memberNames j
  return {
    path := ← Json.required? members "path" Json.toText?
    tags := ← Json.optional? members "tags" [] (Json.toList? Json.toText?)
    links := ← Json.optional? members "links" [] (Json.toList? Json.toText?)
    tasks := ← Json.optional? members "tasks" [] (Json.toList? Task.ofJson?)
    fields := ← Json.optional? members "fields" [] Object.ofJson? }

end Document

namespace Corpus

def ofJson? (j : Json) : Option Corpus := ofDocuments <$> Json.toList? Document.ofJson? j

def ofText? (text : String) : Option Corpus := (Json.ofText? text).bind ofJson?

end Corpus

end DocQuery
