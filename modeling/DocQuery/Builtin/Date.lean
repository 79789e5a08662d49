import DocQuery.Builtin.Basic
import DocQuery.Calendar.Pattern.Show

/-!
Functions on dates.
-/

namespace DocQuery.Builtin

def startOfDay : Implementation
  | _, [.date d] => .ok (.date d.startOfDay)
  | _, args => mismatch "striptime" args

def formatDate : Implementation
  | _, [.date d, .string pattern] =>
    match d.show? pattern with
    | some text => .ok (.string text)
    | none => .error (.invalidDateFormat pattern)
  | _, args => mismatch "dateformat" args

/-- The same point in time at the local offset, which is that of world time. -/
def localTime : Implementation
  | _, [.date d] => .ok (.date { d with offset := 0 })
  | _, args => mismatch "localtime" args

def dateFunctions : List Function := [
  define "striptime" |>.takes [date] startOfDay |>.takes [null] missing |>.vectorize 1 [0],
  define "dateformat"
    |>.takes [date, string] formatDate |>.takes [null, string] missing |>.vectorize 2 [0],
  define "localtime" |>.takes [date] localTime |>.takes [null] missing |>.vectorize 1 [0]]

end DocQuery.Builtin
