import GrowthGrammar.Error
import GrowthGrammar.Proofs.Fallible

/-!
# Classes of errors

Errors of one `ErrorClass` are of one kind and differ in the texts and places that they show.
`classified` keeps of an error its class alone, in a chain of steps as well as in a list of them
(`classified_bind`, `classified_mapM`).
-/

namespace GrowthGrammar

variable {α β : Type}

/-- The classes of errors. -/
inductive ErrorClass where
  | refusal
  | failure
  | bracket
  | grammar (kind : GrammarKind)
  | configuration
  | missingFile
  | directory
  | noDirectory
  | occupiedPath
  | longPath
  | otherFile
  | overflow
  | undecodable
  | valueKind
  | value
deriving Repr, DecidableEq

/-- The class of an error. -/
def Error.errorClass : Error → ErrorClass
  | expression (.refused _ _) => .refusal
  | expression (.failed _ _) => .failure
  | bracket _ => .bracket
  | grammar e => .grammar e.kind
  | configuration _ => .configuration
  | file (.missing _) => .missingFile
  | file (.isDirectory _) => .directory
  | file (.notDirectory _) => .noDirectory
  | file (.occupied _) => .occupiedPath
  | file (.tooLong _) => .longPath
  | file (.other _ _ _) => .otherFile
  | stray .integerTooLarge => .overflow
  | stray (.undecodable _) => .undecodable
  | stray .blankCount => .valueKind
  | stray _ => .value

theorem exists_of_errorClass_failure {e : Error} (h : e.errorClass = .failure) :
    ∃ e', e = .expression e' := by
  unfold Error.errorClass at h
  split at h <;> first | exact ⟨_, rfl⟩ | cases h

/-- The answer, or the class of the error. -/
def classified (x : Except Error α) : Except ErrorClass α :=
  x.mapError Error.errorClass

theorem classified_bind (x : Except Error α) (f : α → Except Error β) :
    classified (x >>= f) = classified x >>= fun a => classified (f a) :=
  mapError_bind _ x f

theorem classified_mapM (f : α → Except Error β) (xs : List α) :
    classified (xs.mapM f) = xs.mapM fun x => classified (f x) :=
  mapError_mapM _ f xs

/-- Steps that agree up to the places in their errors agree in a chain. -/
theorem classified_bind_congr {x y : Except Error α} {f g : α → Except Error β}
    (h : classified x = classified y) (hf : ∀ a, classified (f a) = classified (g a)) :
    classified (x >>= f) = classified (y >>= g) := by
  rw [classified_bind, classified_bind, h]
  exact bind_congr hf

/-- Steps that agree up to the places in their errors have one answer or errors of one class. -/
theorem classified_eq_iff {x y : Except Error α} :
    classified x = classified y ↔
      (∃ a, x = .ok a ∧ y = .ok a) ∨
        ∃ e f, x = .error e ∧ y = .error f ∧ e.errorClass = f.errorClass := by
  cases x with
  | error e =>
    cases y with
    | error f => simp [classified, Except.mapError]
    | ok b => simp [classified, Except.mapError]
  | ok a =>
    cases y with
    | error f => simp [classified, Except.mapError]
    | ok b => simp [classified, Except.mapError, eq_comm]

end GrowthGrammar
