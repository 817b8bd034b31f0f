import GrowthGrammar.Proofs.Growth.Run
import GrowthGrammar.Proofs.Source.TwoForms

/-!
# Systems that are read and run at once

A description that is read and run at once comes to the system that is loaded from its file and
advanced afterwards, or fails with the same error (`load_advance`).
-/

namespace GrowthGrammar

open GrowthGrammar.Number GrowthGrammar.Text

namespace Growth

/-- The system that a run ends with, or the error of the generation that fails. -/
def completed : Growth × Option Error → Except Error Growth
  | (s, none) => .ok s
  | (_, some e) => .error e

theorem read_eq (globals : Environment) (count : Option ℤ) (cs : List Char) :
    Growth.read globals count cs =
      Description.read globals cs >>= fun d =>
        completed (d.growth.advanceBy ((count.orElse fun _ => d.count).getD 0).toNat) := by
  refine bind_congr fun d => ?_
  cases d.growth.advanceBy ((count.orElse fun _ => d.count).getD 0).toNat with
  | mk s failure => cases failure <;> rfl

theorem read_unifyNewlines (globals : Environment) (count : Option ℤ) (cs : List Char) :
    Growth.read globals count (unifyNewlines cs) = Growth.read globals count cs := by
  rw [read_eq, read_eq, Description.read_unifyNewlines]

/-- A system whose first generation fails comes to no other one. -/
theorem read_of_step_error {globals : Environment} {cs : List Char} {d : Description}
    (hd : Description.read globals cs = .ok d) {e : Error} (he : d.growth.step = .error e) {n : ℕ}
    (hn : 0 < n) : Growth.read globals (some n) cs = .error e := by
  obtain ⟨m, rfl⟩ := Nat.exists_eq_succ_of_ne_zero hn.ne'
  have hcount : ((some ((m.succ : ℕ) : ℤ)).orElse fun _ => d.count).getD 0 = (m.succ : ℕ) := rfl
  rw [read_eq, hd, ok_bind, hcount, Int.toNat_natCast, advanceBy, he]
  rfl

end Growth

namespace Source

variable {read : String → Except Error Bytes} {path : String}

/-- The description at a path, under variables that are doubles. -/
theorem load_givenDoubles (hpath : isDataPath path = false) {bytes : Bytes} {cs : List Char}
    (hbytes : read path = .ok bytes) (hcs : decode bytes = .ok cs)
    (entries : List (String × Float)) :
    load read path (givenDoubles entries) =
      Description.read (.ofList entries) cs >>= fun d =>
        .ok ⟨describedName path, d.growth, (d.count.getD 0).toNat⟩ := by
  rw [load_of_decode hpath hbytes hcs, ofDescription, overlayGiven_givenDoubles]
  rfl

/-- A system that is loaded and advanced is the one that is read and run at once. -/
theorem load_advance (hpath : isDataPath path = false) {bytes : Bytes} {cs : List Char}
    (hbytes : read path = .ok bytes) (hcs : decode bytes = .ok cs)
    (entries : List (String × Float)) (count : Option ℕ) :
    (load read path (givenDoubles entries) >>= fun s =>
      Growth.completed (s.growth.advance (count.getD s.count : ℕ))) =
    Growth.read (.ofList entries) (count.map (↑)) cs := by
  rw [load_givenDoubles hpath hbytes hcs, Growth.read_eq, bind_assoc]
  refine bind_congr fun d => ?_
  rw [ok_bind, Growth.advance_natCast]
  cases count with
  | none => rfl
  | some n => rfl

end Source

end GrowthGrammar
