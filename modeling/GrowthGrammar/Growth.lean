import GrowthGrammar.Rule.Basic

/-!
# Systems

A `Growth` is a word of symbols with the rules that make it grow.  In a generation every symbol is
replaced by the block that the first rule with an answer gives for it, or by itself.  A generation
that fails leaves the system as it was, so a run stops at the last generation that was completed.
-/

namespace GrowthGrammar

/-- A system: a growing word and the rules by which it grows. -/
structure Growth where
  symbols : List Symbol
  rules : List Rule
  generation : Nat

/-- The block in place of a symbol: the answer of the first rule that has one, or the symbol. -/
def blockOf (s : Symbol) : List Rule → Except Error (List Symbol)
  | [] => .ok [s]
  | r :: rs =>
    match r.rewrite s with
    | .error e => .error e
    | .ok (some block) => .ok block
    | .ok none => blockOf s rs

/-- The word that follows a word by the rules. -/
def rewriteWord (rules : List Rule) (symbols : List Symbol) : Except Error (List Symbol) :=
  symbols.flatMapM (blockOf · rules)

/-- What a run does: the words it completes, the system it leaves and the error it ends with. -/
structure Run where
  words : List (List Symbol)
  final : Growth
  failure : Option Error

namespace Growth

/-- The text of the word. -/
def text (s : Growth) : String :=
  wordText s.symbols

/-- The system one generation later. -/
def step (s : Growth) : Except Error Growth :=
  match rewriteWord s.rules s.symbols with
  | .error e => .error e
  | .ok symbols => .ok { s with symbols, generation := s.generation + 1 }

/-- A run of so many generations. -/
def trace : Nat → Growth → Run
  | 0, s => ⟨[], s, none⟩
  | n + 1, s =>
    match s.step with
    | .error e => ⟨[], s, some e⟩
    | .ok t =>
      let r := trace n t
      { r with words := t.symbols :: r.words }

/-- The system after so many generations, or after those before the first that fails, with its
error. -/
def advanceBy : Nat → Growth → Growth × Option Error
  | 0, s => (s, none)
  | n + 1, s =>
    match s.step with
    | .error e => (s, some e)
    | .ok t => advanceBy n t

/-- The system after a number of generations that must not be negative. -/
def advance (count : Int) (s : Growth) : Growth × Option Error :=
  if count < 0 then (s, some (.stray .negativeCount)) else advanceBy count.toNat s

/-- A run of which at most `take` generations are asked for, if a number is given.  A run that is
asked for nothing does nothing, not even look at its length. -/
def iterate (count : Int) (take : Option Nat) (s : Growth) : Run :=
  if take = some 0 then ⟨[], s, none⟩
  else if count < 0 then ⟨[], s, some (.stray .negativeCount)⟩
  else trace (match take with | some k => min k count.toNat | none => count.toNat) s

/-- The place of a position in a list of some length; a negative position counts from the end. -/
def placeOf (length : Nat) (position : Int) : Int :=
  if position < 0 then position + length else position

/-- The system with a rule inserted at a position, or behind all others. -/
def addRule (r : Rule) (position : Option Int) (s : Growth) : Growth :=
  let length := s.rules.length
  let place := (placeOf length (position.getD length)).toNat
  { s with rules := s.rules.insertIdx (min place length) r }

/-- The system without the rule at a position. -/
def dropRule (position : Int) (s : Growth) : Growth :=
  let place := placeOf s.rules.length position
  if place < 0 then s else { s with rules := s.rules.eraseIdx place.toNat }

/-! ## Laws -/

/-- A run leaves the system that advancing leaves, with the same error. -/
theorem trace_eq_advanceBy (n : Nat) (s : Growth) :
    ((trace n s).final, (trace n s).failure) = advanceBy n s := by
  induction n generalizing s with
  | zero => rfl
  | succ n ih =>
    cases h : s.step with
    | error e => simp [trace, advanceBy, h]
    | ok t => simpa [trace, advanceBy, h] using ih t

end Growth

end GrowthGrammar
