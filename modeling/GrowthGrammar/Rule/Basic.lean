import GrowthGrammar.Quantity
import GrowthGrammar.Symbol

/-!
# Rules

A `Rule` replaces the symbols of its name by its successors.  A rule with parameter names fits
symbols with that many parameters, one without fits any.  Its condition and the parameters of its
successors are evaluated under its globals, overlaid with the parameters of the symbol.
-/

namespace GrowthGrammar

/-- A successor: a symbol with parameters still to be evaluated. -/
structure Template where
  name : String
  parameters : List Quantity

/-- A rule. -/
structure Rule where
  name : String
  parameters : List String
  condition : Option Condition
  successors : List Template
  globals : Environment

namespace Template

/-- The symbol that a successor is in an environment. -/
def generate (env : Environment) (t : Template) : Except Error Symbol := do
  let parameters ← t.parameters.mapM fun q => q.evaluate env
  return ⟨t.name, parameters⟩

/-- The symbols of successors up to the first that fails, and its error. -/
def generateAll (env : Environment) : List Template → List Symbol × Option Error
  | [] => ([], none)
  | t :: r =>
    match t.generate env with
    | .error e => ([], some e)
    | .ok s => let (made, failure) := generateAll env r; (s :: made, failure)

end Template

namespace Rule

/-- The rule is one for symbols of this name and number of parameters. -/
def fits (r : Rule) (name : String) (arity : Nat) : Bool :=
  name == r.name && (r.parameters.isEmpty || r.parameters.length == arity)

/-- The environment in which the rule treats a symbol, if it fits. -/
def bind (r : Rule) (s : Symbol) : Option Environment :=
  if r.fits s.name s.parameters.length then
    some (r.globals.overlay (r.parameters.zip s.parameters))
  else
    none

/-- The condition holds, or there is none. -/
def allows (r : Rule) (env : Environment) : Except Error Bool :=
  match r.condition with
  | none => .ok true
  | some c => c.holds env

/-- The symbols in place of a symbol, unless the rule does not fit or its condition fails. -/
def rewrite (r : Rule) (s : Symbol) : Except Error (Option (List Symbol)) :=
  match r.bind s with
  | none => .ok none
  | some env => do
    if ← r.allows env then
      let made ← r.successors.mapM (Template.generate env)
      return some made
    else
      return none

/-- Appends the symbols in place of a symbol to an output, with the answer whether there are any.
What a failing successor leaves behind are the symbols of those before it. -/
def apply (r : Rule) (s : Symbol) (output : List Symbol) : List Symbol × Except Error Bool :=
  match r.bind s with
  | none => (output, .ok false)
  | some env =>
    match r.allows env with
    | .error e => (output, .error e)
    | .ok false => (output, .ok false)
    | .ok true =>
      match Template.generateAll env r.successors with
      | (made, none) => (output ++ made, .ok true)
      | (made, some e) => (output ++ made, .error e)

end Rule

end GrowthGrammar
