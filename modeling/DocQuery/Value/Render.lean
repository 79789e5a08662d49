import DocQuery.Value.Basic
import DocQuery.Settings
import DocQuery.Duration.Text
import DocQuery.Calendar.Pattern.Show

/-!
The text of a value as it is shown to people.
-/

namespace DocQuery

namespace Date

/-- A date by the pattern for its precision; a pattern that cannot be used gives way to the exchange
form. -/
def render (settings : Settings) (d : Date) : String :=
  (d.show? (if d.isMidnight then settings.dateFormat else settings.dateTimeFormat)).getD d.isoText

end Date

namespace Value

mutual

def render (settings : Settings) : Value → String
  | null => settings.nullText
  | boolean b => if b then "true" else "false"
  | number n => n.display
  | string s => s
  | date d => d.render settings
  | duration d => d.render
  | link l => l.displayName
  | array items => ", ".intercalate (renderItems settings items)
  | object fields => ", ".intercalate (renderFields settings fields)
  | listPair key value => render settings key ++ ": " ++ render settings value
  | externalLink url display => display.getD url

def renderItems (settings : Settings) : List Value → List String
  | [] => []
  | item :: rest => render settings item :: renderItems settings rest

/-- The texts of fields, each behind its name. -/
def renderFields (settings : Settings) : List (String × Value) → List String
  | [] => []
  | (name, value) :: rest => (name ++ ": " ++ render settings value) :: renderFields settings rest

end

def renderPlain (v : Value) : String := v.render {}

end Value

end DocQuery
