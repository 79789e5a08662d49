import DocQuery.Command
import Std.Time.DateTime.Timestamp

/-!
The program: reads its arguments and files, runs a command and prints what it answers.
-/

namespace DocQuery

/-- The arguments of a command that runs a text. Corpus and settings are paths of files. -/
structure Arguments where
  text : Option String := none
  corpus : Option String := none
  origin : Option String := none
  settings : Option String := none
  pretty : Bool := false
  readOnly : Bool := false

namespace Arguments

/-- Reads arguments; none if there is one that is not known or too many texts. -/
def read? (a : Arguments) : List String → Option Arguments
  | [] => some a
  | "-p" :: rest | "--pretty" :: rest => read? { a with pretty := true } rest
  | "-v" :: rest | "--verbose" :: rest => read? a rest
  | "--syntax-only" :: rest => read? { a with readOnly := true } rest
  | "-c" :: path :: rest | "--corpus" :: path :: rest => read? { a with corpus := some path } rest
  | "-o" :: path :: rest | "--origin" :: path :: rest => read? { a with origin := some path } rest
  | "-s" :: path :: rest | "--settings" :: path :: rest =>
    read? { a with settings := some path } rest
  | text :: rest =>
    if a.text.isSome || text.startsWith "-" then none else read? { a with text := some text } rest

end Arguments

def presentMoment : IO Date := do
  let t ← Std.Time.Timestamp.now
  let nanos := t.toNanosecondsSinceUnixEpoch.val
  return ⟨nanos.fdiv 1000000000, (nanos.fmod 1000000000).toNat, 0⟩

def fail (message : String) : IO UInt32 := do
  IO.eprintln message
  return 1

def readIfGiven : Option String → IO (Option String)
  | some path => some <$> IO.FS.readFile path
  | none => return none

/-- Runs a command on a text. The corpus is read from standard input unless a file is given. -/
def runCommand (command : CommandOptions → Date → Except CommandError CommandResult)
    (a : Arguments) (text : String) : IO UInt32 := do
  let settings? ← readIfGiven a.settings
  let some settings := settings?.elim (some {}) Settings.ofText?
    | fail CommandError.malformedJson.message
  let corpus ←
    if a.readOnly then pure none
    else if a.corpus.isSome then readIfGiven a.corpus
    else if ← (← IO.getStdin).isTty then pure none
    else some <$> (← IO.getStdin).readToEnd
  let options : CommandOptions :=
    { text, corpus, origin := a.origin, settings, readOnly := a.readOnly }
  match command options (← presentMoment) with
  | .ok result =>
    IO.println (result.text a.pretty)
    return 0
  | .error e => fail e.message

def usage : String :=
  "Usage: quarry query TEXT | eval TEXT | docs | doc CATEGORY\n" ++
  "Options: -c FILE, -o PATH, -s FILE, -p, --syntax-only"

def runArguments (command : CommandOptions → Date → Except CommandError CommandResult)
    (args : List String) : IO UInt32 :=
  match Arguments.read? {} args with
  | some a =>
    match a.text with
    | some text => runCommand command a text
    | none => fail usage
  | none => fail usage

end DocQuery

open DocQuery in
def main (args : List String) : IO UInt32 := do
  match args with
  | "query" :: rest => runArguments CommandOptions.query rest
  | "eval" :: rest => runArguments CommandOptions.eval rest
  | ["docs"] =>
    IO.print Manual.overview
    return 0
  | ["doc", category] =>
    match manualPage category with
    | .ok page =>
      IO.print page
      return 0
    | .error e => fail e.message
  | _ => fail usage
