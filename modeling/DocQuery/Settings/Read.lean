import DocQuery.Json.Record
import DocQuery.Settings

/-!
Reading settings from the exchange notation. Every member may be left out.
-/

namespace DocQuery

namespace Settings

def memberNames : List String :=
  ["render_null_as", "date_format", "date_time_format", "table_id_column_name",
    "display_result_count"]

def ofJson? (j : Json) : Option Settings := do
  let members ← Json.record? memberNames j
  let defaults : Settings := {}
  let text (name : String) (default : String) : Option String :=
    Json.optional? members name default Json.toText?
  return {
    nullText := ← text "render_null_as" defaults.nullText
    dateFormat := ← text "date_format" defaults.dateFormat
    dateTimeFormat := ← text "date_time_format" defaults.dateTimeFormat
    idColumnName := ← text "table_id_column_name" defaults.idColumnName
    showCount := ← Json.optional? members "display_result_count" defaults.showCount Json.toBool? }

def ofText? (text : String) : Option Settings := (Json.ofText? text).bind ofJson?

end Settings

end DocQuery
