import DocQuery.Eval.Operators
import DocQuery.Text.LetterCase

/-!
Functions and tables of them. A function has overloads, of which the first that takes the arguments is
used. Before that, arguments in positions that are declared element-wise are taken apart: an array
there stands for one call for each of its elements, however deeply they are nested.
-/

namespace DocQuery

/-- What a call knows beside its arguments. -/
structure CallScope extends Scope where
  operators : Operators

namespace CallScope

def apply (s : CallScope) (op : Op) (left right : Value) : Outcome Value :=
  s.operators.apply s.toScope op left right

end CallScope

/-- What a function does with its arguments. -/
abbrev Implementation := CallScope → List Value → Outcome Value

/-- The arguments that an overload takes. -/
inductive Signature where
  /-- Exactly these. -/
  | fixed (types : List TypePattern)
  /-- Any number of anything. -/
  | variadic
  deriving DecidableEq

namespace Signature

def matchAll : List TypePattern → List Value → Bool
  | [], [] => true
  | type :: types, arg :: args => type.matches arg && matchAll types args
  | _, _ => false

def accepts : Signature → List Value → Bool
  | fixed types, args => matchAll types args
  | variadic, _ => true

end Signature

structure Overload where
  signature : Signature
  run : Implementation

structure Function where
  name : String
  /-- In the order in which they are tried. -/
  overloads : List Overload := []
  /-- For numbers of arguments, the positions that are element-wise. -/
  elementwise : List (Nat × List Nat) := []

mutual

/-- Applies a function to a value, or to each of its elements when it is an array. -/
def Value.mapLeaves (f : Value → Outcome Value) : Value → Outcome Value
  | .array items => Value.array <$> Value.mapItems f items
  | leaf => f leaf

def Value.mapItems (f : Value → Outcome Value) : List Value → Outcome (List Value)
  | [] => .ok []
  | item :: rest => do
    let first ← Value.mapLeaves f item
    return first :: (← Value.mapItems f rest)

end

namespace Function

/-- The element-wise positions of calls with so many arguments. -/
def positions (f : Function) (arity : Nat) : List Nat := (f.elementwise.lookup arity).getD []

/-- Adds an overload behind the others. -/
def overload (f : Function) (signature : Signature) (run : Implementation) : Function :=
  { f with overloads := f.overloads ++ [⟨signature, run⟩] }

def takes (f : Function) (types : List TypePattern) (run : Implementation) : Function :=
  f.overload (.fixed types) run

/-- Declares positions element-wise for calls with so many arguments; positions that such calls do
not have are left out. -/
def vectorize (f : Function) (arity : Nat) (positions : List Nat) : Function :=
  { f with elementwise := (arity, positions.filter (· < arity)) :: f.elementwise }

/-- The first overload that takes the arguments. -/
def select? (f : Function) (args : List Value) : Option Overload :=
  f.overloads.find? fun o => o.signature.accepts args

/-- Calls a function whose arguments have been taken apart. -/
def callOnce (f : Function) (scope : CallScope) (args : List Value) : Outcome Value :=
  match f.select? args with
  | some o => o.run scope args
  | none => .error (.noImplementation f.name (args.map Value.type))

/-- Takes the arguments in the given positions apart, one position after the other. -/
def distribute (run : List Value → Outcome Value) : List Nat → List Value → Outcome Value
  | [], args => run args
  | position :: rest, args =>
    match args[position]? with
    | some arg => arg.mapLeaves fun leaf => distribute run rest (args.set position leaf)
    | none => distribute run rest args

def call (f : Function) (scope : CallScope) (args : List Value) : Outcome Value :=
  distribute (f.callOnce scope) (f.positions args.length) args

end Function

abbrev FunctionTable := Keyed Function

namespace FunctionTable

/-- Adds a function; it replaces an earlier one of the same name. -/
def register (t : FunctionTable) (f : Function) : FunctionTable := Keyed.set t f.name f

def addAlias (t : FunctionTable) (newName name : String) : FunctionTable :=
  match Keyed.get? t name with
  | some f => Keyed.set t newName { f with name := newName }
  | none => t

/-- The function with a name, or else with the name in lower case. -/
def find? (t : FunctionTable) (name : String) : Option Function :=
  (Keyed.get? t name).orElse fun _ => Keyed.get? t (Text.lower name)

def sortedNames (t : FunctionTable) : List String :=
  (Keyed.names t).mergeSort fun a b => a ≤ b

def call (t : FunctionTable) (scope : CallScope) (name : String) (args : List Value) :
    Outcome Value :=
  match t.find? name with
  | some f => f.call scope args
  | none => .error (.unknownFunction name)

end FunctionTable

end DocQuery
