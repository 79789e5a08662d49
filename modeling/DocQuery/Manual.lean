import DocQuery.Manual.Page
import DocQuery.Text.LetterCase

/-!
The manual: an overview and a page for every topic.
-/

namespace DocQuery.Manual

inductive Topic where
  | expressions | operators | functions | texts | dates | queries | sources | types
  deriving DecidableEq

namespace Topic

def all : List Topic :=
  [expressions, operators, functions, texts, dates, queries, sources, types]

def names : Topic → List String
  | expressions => ["syntax"]
  | operators => ["operators", "ops"]
  | functions => ["functions", "function", "fns"]
  | texts => ["strings", "string", "regex"]
  | dates => ["dates", "date", "durations"]
  | queries => ["queries", "query"]
  | sources => ["sources", "source", "from"]
  | types => ["types", "type"]

def ofName? (name : String) : Option Topic :=
  let name := String.ofList ((Text.lower name).toList.map fun c => if c = '-' then '_' else c)
  all.find? fun topic => topic.names.contains name

def page : Topic → List String
  | expressions => expressionsPage
  | operators => operatorsPage
  | functions => functionsPage
  | texts => textsPage
  | dates => datesPage
  | queries => queriesPage
  | sources => sourcesPage
  | types => typesPage

end Topic

def textOf (lines : List String) : String := String.join (lines.map (· ++ "\n"))

def overview : String := textOf overviewPage

def Topic.text (topic : Topic) : String := textOf topic.page

end DocQuery.Manual
