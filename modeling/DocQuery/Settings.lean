/-!
The settings that values are rendered and results are shaped by.
-/

namespace DocQuery

/-- Rendering and presentation settings. Date formats are date patterns. -/
structure Settings where
  /-- The text of a missing value. -/
  nullText : String := "-"
  /-- The pattern for dates at midnight. -/
  dateFormat : String := "%B %d, %Y"
  /-- The pattern for all other dates. -/
  dateTimeFormat : String := "%-I:%M %p - %B %d, %Y"
  /-- The header of the identifier column of a table. -/
  idColumnName : String := "File"
  /-- Whether results report how many rows they have. -/
  showCount : Bool := true
  deriving DecidableEq

end DocQuery
