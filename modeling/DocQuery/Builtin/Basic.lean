import DocQuery.Eval.Function

/-!
What the built-in functions share.
-/

namespace DocQuery.Builtin

/-- The failure of a function that cannot use its arguments. -/
def mismatch (name : String) (args : List Value) : Outcome Value :=
  .error (.noImplementation name (args.map Value.type))

/-- Answers null whatever the arguments. -/
def missing : Implementation := fun _ _ => .ok .null

def first : Implementation := fun _ args => .ok (args.headD .null)

/-- The elements of an array that is the only argument, else the arguments themselves. -/
def spread : List Value → List Value
  | [.array items] => items
  | args => args

def compilePattern (scope : CallScope) (pattern : String) : Outcome CompiledPattern :=
  (scope.patterns.compile pattern).mapError (.invalidPattern pattern)

def define (name : String) : Function := { name }

/-! Short names for the types of arguments. -/

def any : TypePattern := .any
def null : TypePattern := .only .null
def boolean : TypePattern := .only .boolean
def number : TypePattern := .only .number
def string : TypePattern := .only .string
def date : TypePattern := .only .date
def duration : TypePattern := .only .duration
def link : TypePattern := .only .link
def array : TypePattern := .only .array

end DocQuery.Builtin
