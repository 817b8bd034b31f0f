import GrowthGrammar.Value.Arithmetic

/-!
# Comparisons of values

Integers and doubles are compared exactly, without rounding the integer.  Any two values are equal
or not; only real numbers are in order.
-/

namespace GrowthGrammar

open GrowthGrammar.Number

namespace Value

/-- How two doubles compare; `none` if one is no number. -/
def compareFloats (x y : Float) : Option Ordering :=
  if x < y then some .lt else if x == y then some .eq else if y < x then some .gt else none

/-- How two numbers that are not complex compare. -/
def compareReal? : Quantum → Quantum → Option Ordering
  | .integer a, .integer b => some (compare a b)
  | .integer a, .double y => compareInt a y
  | .double x, .integer b => (compareInt b x).map Ordering.swap
  | .double x, .double y => compareFloats x y
  | _, _ => none

/-- The real number that a number is equal to, if there is one. -/
def realPart? : Quantum → Option Quantum
  | .complex z => if z.im == 0 then some (.double z.re) else none
  | q => some q

/-- Two numbers are equal. -/
def equalQuanta : Quantum → Quantum → Bool
  | .complex z, .complex w => z.re == w.re && z.im == w.im
  | p, q =>
    match realPart? p, realPart? q with
    | some a, some b => compareReal? a b == some .eq
    | _, _ => false

/-- Two values are equal. -/
def equal (l r : Value) : Bool :=
  match l.quantum?, r.quantum? with
  | some p, some q => equalQuanta p q
  | none, none =>
    match l, r with
    | .function f, .function g => f == g
    | .table, .table => true
    | _, _ => false
  | _, _ => false

/-- An ordering satisfies a comparison. -/
def holds : Comparator → Ordering → Bool
  | .less, o => o == .lt
  | .lessEqual, o => o != .gt
  | .greater, o => o == .gt
  | .greaterEqual, o => o != .lt
  | .equal, o => o == .eq
  | .notEqual, o => o != .eq

/-- The result of a comparison that asks for the order of two values. -/
def inOrder (op : Comparator) (l r : Value) : Except Fault Bool :=
  match l.quantum?, r.quantum? with
  | some p, some q =>
    if p.isComplex || q.isComplex then .error (.orderKinds op l.kind r.kind)
    else .ok ((compareReal? p q).elim false (holds op))
  | _, _ => .error (.orderKinds op l.kind r.kind)

/-- The result of a comparison. -/
def compare (op : Comparator) (l r : Value) : Except Fault Bool :=
  match op with
  | .equal => .ok (l.equal r)
  | .notEqual => .ok !(l.equal r)
  | op => inOrder op l r

end Value

end GrowthGrammar
