import GrowthGrammar.Environment
import GrowthGrammar.Error
import GrowthGrammar.Text.Blank
import GrowthGrammar.Text.Identifier

/-!
# Configurations

A `Configuration` is a system in a data file: an object with a name, an axiom, a count of
generations, rules and variables.  All but the axiom may be missing; every field that is there
must be of its kind.
-/

namespace GrowthGrammar

open GrowthGrammar.Text

/-- A system as a data file gives it. -/
structure Configuration where
  name : String
  axiomText : String
  count : Nat
  rules : List String
  globals : Environment

namespace Configuration

/-- The error of a part of another kind than it must be. -/
def wrongKind (path expected : String) : Error :=
  .configuration (.kind path expected)

/-- The string at a path. -/
def asString (path : String) : Json → Except Error String
  | .string s => .ok s
  | _ => .error (wrongKind path "a string")

/-- The integer at a path. -/
def asInteger (path : String) : Json → Except Error Int
  | .integer n => .ok n
  | _ => .error (wrongKind path "an integer")

/-- The items of the array at a path. -/
def asArray (path : String) : Json → Except Error (List Json)
  | .array items => .ok items
  | _ => .error (wrongKind path "an array")

/-- The fields of the object at a path. -/
def asObject (path : String) : Json → Except Error (List (String × Json))
  | .object fields => .ok fields
  | _ => .error (wrongKind path "an object")

/-- The number at a path as a double. -/
def asDouble (path : String) : Json → Except Error Float
  | .double x => .ok x
  | .integer n =>
    match Number.ofInt? n with
    | some x => .ok x
    | none => .error (.stray .integerTooLarge)
  | _ => .error (wrongKind path "a number")

/-- The strings of the rules, from a position on. -/
def readRules : Nat → List Json → Except Error (List String)
  | _, [] => .ok []
  | i, v :: r => do
    let s ← asString ("rules[" ++ toString i ++ "]") v
    let ss ← readRules (i + 1) r
    return s :: ss

/-- A variable: its name is checked before its value. -/
def readVariable : String × Json → Except Error (String × Float)
  | (n, v) =>
    if isVariableName n.toList then do
      let x ← asDouble ("variables['" ++ n ++ "']") v
      return (n, x)
    else .error (.configuration (.badKey n))

/-- The configuration that the data of a file are. -/
def ofJson (v : Json) : Except Error Configuration := do
  let fields ← asObject "root" v
  let field (name : String) (default : Json) := (fields.lookup name).getD default
  let name ← asString "name" (field "name" (.string "L-System"))
  let axiomText ← asString "axiom" (field "axiom" (.string ""))
  if isBlankText axiomText.toList then .error (.configuration .emptyAxiom)
  else
    let count ← asInteger "count" (field "count" (.integer 0))
    if count < 0 then .error (.configuration .negativeCount)
    else
      let rules ← readRules 0 (← asArray "rules" (field "rules" (.array [])))
      let globals ← (← asObject "variables" (field "variables" (.object []))).mapM readVariable
      return ⟨name, axiomText, count.toNat, rules, Environment.ofList globals⟩

/-- The configuration in the text of the data file at a path. -/
def read (path : String) (cs : List Char) : Except Error Configuration :=
  match Json.read cs with
  | .ok v => ofJson v
  | .error (.fault f position line column) =>
    .error (.configuration (.notJson path f position line column))
  | .error (.tooManyDigits count) => .error (.stray (.unreadInteger count))
  | .error (.unpaired unit) => .error (.stray (.unpairedSurrogate unit))

end Configuration

end GrowthGrammar
