import GrowthGrammar.Json.Basic
import GrowthGrammar.Growth

/-!
# Results as data

`wordJson` is a word as it stands in a data file, and `resultJson` a whole result: the name of the
system, the generation reached and the word.
-/

namespace GrowthGrammar

/-- A symbol as data. -/
def symbolJson (s : Symbol) : Json :=
  .object [("name", .string s.name), ("parameters", .array (s.parameters.map .double))]

/-- A word of symbols as data. -/
def wordJson (symbols : List Symbol) : Json :=
  .array (symbols.map symbolJson)

/-- The result of running the system with a name. -/
def resultJson (name : String) (s : Growth) : Json :=
  .object [("name", .string name), ("generation", .integer s.generation),
    ("symbols", wordJson s.symbols)]

end GrowthGrammar
