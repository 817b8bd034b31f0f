import GrowthGrammar.Value.Comparison

/-!
# Built-in functions

`Builtin.call` applies a function to its arguments.  A function of real numbers takes integers and
truth values as doubles.  It has no result outside its domain, which shows in a result that is no
number, or where the result is beyond all doubles.
-/

namespace GrowthGrammar

open GrowthGrammar.Number

namespace Value

/-- The argument of a function of real numbers. -/
def real (v : Value) : Except Fault Float :=
  match v.quantum? with
  | some (.complex _) | none => .error (.notReal v.kind)
  | some q => q.toFloat

/-- The argument that is to be a whole number: a double loses its fraction. -/
def integral (v : Value) : Except Fault Int :=
  match v with
  | .integer n => .ok n
  | .truth b => .ok (if b then 1 else 0)
  | .double x =>
    match parts x with
    | .notANumber => .error .notANumberToInteger
    | .infinite _ => .error .infinityToInteger
    | .finite .. => .ok ((truncate? x).getD 0)
  | v => .error (.notIntegral v.kind)

end Value

namespace Builtin

open Value

/-- The double is no number. -/
def isNotANumber (x : Float) : Bool :=
  parts x == .notANumber

/-- A function of one real number, with the fault of a result beyond all doubles. -/
def onReal (f : Float → Float) (overflow : Fault) (v : Value) : Except Fault Value := do
  let x ← v.real
  let y := f x
  if isNotANumber y && !isNotANumber x then .error .domain
  else if Complex.isInfinitePart y && !Complex.isInfinitePart x then .error overflow
  else .ok (.double y)

/-- The logarithm of an integer beyond all doubles, which is about `significand · 2 ^ exponent` with
a significand between a half and one. -/
def logLarge (n : Nat) : Float :=
  let bits := n.log2 + 1
  let m := roundHalfEven n (twoTo (bits - 53))
  let (m, e) := if m = twoTo 53 then (twoTo 52, bits + 1) else (m, bits)
  (ofScaled false m (-53)).log + (2 : Float).log * ofRatio false e 1

/-- The natural logarithm. -/
def naturalLog (v : Value) : Except Fault Float :=
  match v.quantum? with
  | some (.integer n) =>
    if n ≤ 0 then .error .domain
    else .ok ((ofInt? n).elim (logLarge n.toNat) Float.log)
  | _ => do
    let x ← v.real
    if x ≤ 0 then .error .domain else .ok x.log

/-- The power as a function of real numbers. -/
def realPower (x y : Float) : Except Fault Value :=
  match parts x, parts y with
  | .finite .., .finite .. =>
    let p := if y == 0 then 1 else x.pow y
    if isNotANumber p || (x == 0 && Complex.isInfinitePart p) then .error .domain
    else if Complex.isInfinitePart p then .error .range
    else .ok (.double p)
  | .notANumber, _ => .ok (.double (if y == 0 then 1 else x))
  | _, .notANumber => .ok (.double (if x == 1 then 1 else y))
  | _, _ => .ok (.double (if y == 0 then 1 else infinitePower x y))

/-- A whole number near a double, as a double; integers stay as they are. -/
def rounded (f : Float → Option Int) (v : Value) : Except Fault Value :=
  match v.quantum? with
  | some (.double x) =>
    match parts x with
    | .notANumber => .error .notANumberToInteger
    | .infinite _ => .error .infinityToInteger
    | .finite .. => (Quantum.integer ((f x).getD 0)).toFloat.map .double
  | some (.integer n) => (Quantum.integer n).toFloat.map .double
  | _ => .error (.notReal v.kind)

/-- A number rounded to decimal places, a half to the even neighbour. -/
def roundTo (v : Value) (places : Int) : Except Fault Value :=
  match v.quantum? with
  | some (.double x) =>
    (roundPlaces? x places).elim (.error .roundedTooLarge) fun y => .ok (.double y)
  | some (.integer n) => (Quantum.integer (roundPlacesInt n places)).toFloat.map .double
  | _ => .error (.noRounding v.kind)

/-- The absolute value. -/
def absolute (v : Value) : Except Fault Value :=
  match v.quantum? with
  | some (.integer n) => .ok (.integer n.natAbs)
  | some (.double x) => .ok (.double x.abs)
  | some (.complex z) => z.modulus.map .double
  | none => .error (.noModulus v.kind)

/-- The first of the values that no other one is beyond, in the sense of a comparison. -/
def extreme (op : Comparator) (best : Value) : List Value → Except Fault Value
  | [] => .ok best
  | v :: r => do extreme op (if ← inOrder op v best then v else best) r

/-- The smallest or largest argument; one argument alone would have to hold several values. -/
def choose (f : Builtin) (op : Comparator) : List Value → Except Fault Value
  | [] => .error (.argumentCount f 0)
  | [.table] => .error (.emptyChoice f)
  | [v] => .error (.notIterable v.kind)
  | v :: r => extreme op v r

/-- Applies a function of one argument. -/
def withOne (f : Builtin) (g : Value → Except Fault Value) : List Value → Except Fault Value
  | [v] => g v
  | args => .error (.argumentCount f args.length)

/-- Applies a function of two real arguments. -/
def withTwo (f : Builtin) (g : Float → Float → Except Fault Value) :
    List Value → Except Fault Value
  | [v, w] => do g (← v.real) (← w.real)
  | args => .error (.argumentCount f args.length)

/-- The value of a function at its arguments. -/
def call (f : Builtin) (args : List Value) : Except Fault Value :=
  match f with
  | .sin => withOne f (onReal Float.sin .domain) args
  | .cos => withOne f (onReal Float.cos .domain) args
  | .tan => withOne f (onReal Float.tan .domain) args
  | .asin => withOne f (onReal Float.asin .domain) args
  | .acos => withOne f (onReal Float.acos .domain) args
  | .atan => withOne f (onReal Float.atan .domain) args
  | .sqrt => withOne f (onReal Float.sqrt .domain) args
  | .exp => withOne f (onReal Float.exp .range) args
  | .atan2 => withTwo f (fun y x => .ok (.double (Float.atan2 y x))) args
  | .pow => withTwo f realPower args
  | .abs => withOne f absolute args
  | .floor => withOne f (rounded floor?) args
  | .ceil => withOne f (rounded ceil?) args
  | .min => choose f .less args
  | .max => choose f .greater args
  | .log =>
    match args with
    | [v] => (naturalLog v).map .double
    | [v, base] => do BinaryOp.onDoubles .divide (← naturalLog v) (← naturalLog base)
    | args => .error (.argumentCount f args.length)
  | .round =>
    match args with
    | [v] => roundTo v 0
    | [v, places] => do roundTo v (← places.integral)
    | args => .error (.argumentCount f args.length)

end Builtin

end GrowthGrammar
