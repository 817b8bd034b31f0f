import GrowthGrammar.Entries
import GrowthGrammar.Value.Fault

/-!
# Environments

An `Environment` gives doubles to names.  `Environment.set` gives one more, or another one to a name
that has one; `overlay` sets many in turn.
-/

namespace GrowthGrammar

open GrowthGrammar.Number

/-- Doubles by name. -/
structure Environment where
  entries : List (String × Float)
  nodup_names : (Entries.names entries).Nodup

namespace Environment

/-- The environment without names. -/
def empty : Environment :=
  ⟨[], List.nodup_nil⟩

/-- The double of a name. -/
def find? (env : Environment) (name : String) : Option Float :=
  env.entries.lookup name

/-- The environment with another double for a name. -/
def set (env : Environment) (name : String) (x : Float) : Environment :=
  ⟨Entries.put name x env.entries, Entries.nodup_names_put env.nodup_names⟩

/-- The environment with further entries; of two entries of a name the last one counts. -/
def overlay (env : Environment) (entries : List (String × Float)) : Environment :=
  entries.foldl (fun env e => env.set e.1 e.2) env

/-- The environment with these entries. -/
def ofList (entries : List (String × Float)) : Environment :=
  empty.overlay entries

/-- The environment with these numbers as doubles, unless one is beyond all doubles. -/
def ofGiven (entries : List (String × Given)) : Except Fault Environment := do
  let entries ← entries.mapM fun (n, g) =>
    match g.toFloat? with
    | some x => .ok (n, x)
    | none => .error .integerTooLarge
  return ofList entries

/-- The entries in the order of their names. -/
def toList (env : Environment) : List (String × Float) :=
  Entries.sorted env.entries

/-! ## Laws -/

theorem find?_set (env : Environment) (name : String) (x : Float) :
    (env.set name x).find? name = some x :=
  Entries.lookup_put name x env.entries

theorem find?_set_of_ne (env : Environment) {name other : String} (h : other ≠ name) (x : Float) :
    (env.set name x).find? other = env.find? other :=
  Entries.lookup_put_of_ne h x env.entries

theorem overlay_nil (env : Environment) : env.overlay [] = env := rfl

theorem overlay_cons (env : Environment) (e : String × Float) (r : List (String × Float)) :
    env.overlay (e :: r) = (env.set e.1 e.2).overlay r := rfl

/-- Entries of other names leave a name as it is. -/
theorem find?_overlay_of_not_mem {name : String} {entries : List (String × Float)}
    (h : name ∉ Entries.names entries) (env : Environment) :
    (env.overlay entries).find? name = env.find? name := by
  induction entries generalizing env with
  | nil => rfl
  | cons e r ih =>
    simp only [Entries.names, List.map_cons, List.mem_cons, not_or] at h
    rw [overlay_cons, ih h.2, find?_set_of_ne env h.1]

end Environment

end GrowthGrammar
