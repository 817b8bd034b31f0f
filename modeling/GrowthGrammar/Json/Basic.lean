import GrowthGrammar.Entries
import GrowthGrammar.Number.Layout
import GrowthGrammar.Number.Numeral

/-!
# Data in the JSON format

A `Json` is what a data file holds.  Integers of any size and doubles are kept apart, the fields of
an object keep their order, and a double may be infinite or no number.
-/

namespace GrowthGrammar

/-- A value of a data file. -/
inductive Json where
  | null
  | bool (b : Bool)
  | integer (n : Int)
  | double (x : Float)
  | string (s : String)
  | array (items : List Json)
  | object (fields : List (String × Json))

namespace Json

/-- The field of an object; other values have none. -/
def field? (name : String) : Json → Option Json
  | object fields => fields.lookup name
  | _ => none

end Json

end GrowthGrammar
