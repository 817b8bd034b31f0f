import GrowthGrammar.Configuration
import GrowthGrammar.Description
import GrowthGrammar.FileTree

/-!
# Sources of systems

A system is loaded from a data file, if the path ends in `.json`, or else from a description.  It is
not run; its source says its name and how many generations it is meant for.  `read` stands for the
files: it gives the bytes at a path or an error.
-/

namespace GrowthGrammar

open GrowthGrammar.Number GrowthGrammar.Text

/-- A system with its name and the number of generations that it is meant for. -/
structure Source where
  name : String
  growth : Growth
  count : Nat

namespace Source

/-- The path is one of a data file. -/
def isDataPath (path : String) : Bool :=
  ".json".toList.isSuffixOf (path.toList.map Char.toLower)

/-- The last name in a path. -/
def lastName (path : List Char) : List Char :=
  ((splitAt '/' path).getLast?).getD []

/-- The name without what follows its last point, unless only points stand in front of it. -/
def stem (name : List Char) : List Char :=
  match name.reverse.dropWhile (· ≠ '.') with
  | [] => name
  | _ :: r => if r.all (· == '.') then name else r.reverse

/-- The characters of the text file at a path, with one kind of line ending. -/
def readChars (read : String → Except Error Bytes) (path : String) : Except Error (List Char) := do
  match decode (← read path) with
  | .ok cs => return unifyNewlines cs
  | .error e => .error (.stray (.undecodable e))

/-- The global variables of given numbers over others. -/
def overlayGiven (env : Environment) (overrides : List (String × Given)) :
    Except Error Environment := do
  match Environment.ofGiven overrides with
  | .ok more => return env.overlay more.entries
  | .error _ => .error (.stray .integerTooLarge)

/-- The system of a configuration. -/
def ofConfiguration (c : Configuration) (overrides : List (String × Given)) :
    Except Error Source := do
  let globals ← overlayGiven c.globals overrides
  let symbols ← readAxiom c.axiomText.toList
  let rules ← c.rules.mapM fun r => Rule.read globals r.toList
  return ⟨c.name, ⟨symbols, rules, 0⟩, c.count⟩

/-- The system that a description with a name writes; only a positive count means generations. -/
def ofDescription (name : String) (cs : List Char) (overrides : List (String × Given)) :
    Except Error Source := do
  let globals ← overlayGiven .empty overrides
  let d ← Description.read globals cs
  return ⟨name, d.growth, (d.count.getD 0).toNat⟩

/-- The system at a path. -/
def load (read : String → Except Error Bytes) (path : String) (overrides : List (String × Given)) :
    Except Error Source := do
  let cs ← readChars read path
  if isDataPath path then ofConfiguration (← Configuration.read path cs) overrides
  else ofDescription (String.ofList (stem (lastName path.toList))) cs overrides

end Source

end GrowthGrammar
