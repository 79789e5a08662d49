import DocQuery.Builtin.Choice
import DocQuery.Builtin.Construct
import DocQuery.Builtin.Contain
import DocQuery.Builtin.Date
import DocQuery.Builtin.List
import DocQuery.Builtin.Number
import DocQuery.Builtin.Text

/-!
The table of built-in functions.
-/

namespace DocQuery.Builtin

def functions : List Function :=
  constructors ++ numberFunctions ++ dateFunctions ++ containFunctions ++ listFunctions ++
    textFunctions ++ choiceFunctions

def table : FunctionTable :=
  FunctionTable.addAlias (functions.map fun f => (f.name, f)) "array" "list"

end DocQuery.Builtin
