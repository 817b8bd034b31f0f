import GrowthGrammar.Configuration
import GrowthGrammar.Proofs.Description.Keywords
import GrowthGrammar.Proofs.Number.Digits
import GrowthGrammar.Proofs.Number.Written
import GrowthGrammar.Proofs.Rule.Blanks
import GrowthGrammar.Proofs.Text.Lines
import GrowthGrammar.Proofs.Word.Blanks

/-!
# Descriptions of configurations

A configuration is written as a description with its axiom, its count and a line for each of its
rules.  Main lemma: the description is read by reading the axiom and the rules, each without the
blanks around it (`read_descriptionChars`).
-/

namespace GrowthGrammar

open GrowthGrammar.Number GrowthGrammar.Text

/-- The lines of the description of a configuration. -/
def Configuration.descriptionLines (c : Configuration) : List (List Char) :=
  ("Axiom:".toList ++ c.axiomText.toList) :: ("Count:".toList ++ natDigits c.count) ::
    "Rules:".toList :: c.rules.map String.toList

/-- The description of a configuration. -/
def Configuration.descriptionChars (c : Configuration) : List Char :=
  c.descriptionLines.flatMap (· ++ ['\n'])

namespace Description

/-- A line of the rule block that is a rule and nothing else. -/
structure IsPlainRule (line : List Char) : Prop where
  noBreak : ∀ c ∈ line, isLineBreak c = false
  long : leastRuleLine ≤ (trim line).length
  noComment : (trim line).head? ≠ some '#'
  noAxiom : afterKeyword "axiom:".toList (trim line) = none
  noCount : afterKeyword "count:".toList (trim line) = none
  noRules : afterKeyword "rules:".toList (trim line) = none

/-- What has been read with further rules. -/
def Progress.addRules (p : Progress) (rules : List Rule) : Progress :=
  { p with rules := p.rules ++ rules }

variable {globals : Environment}

/-! ## Plain rules -/

theorem Progress.addRules_nil (p : Progress) : p.addRules [] = p := by
  rw [addRules, List.append_nil]

theorem Progress.addRules_addRules (p : Progress) (rules more : List Rule) :
    (p.addRules rules).addRules more = p.addRules (rules ++ more) := by
  simp only [addRules, List.append_assoc]

theorem IsPlainRule.isSkipped {line : List Char} (h : IsPlainRule line) :
    isSkipped (trim line) = false := by
  have hlong := h.long
  have hcomment := h.noComment
  cases hline : trim line with
  | nil =>
    rw [hline] at hlong
    exact absurd hlong (by decide)
  | cons c r =>
    rw [hline] at hcomment
    exact beq_eq_false_iff_ne.2 fun hc => hcomment (congrArg some hc)

theorem readLine_of_isPlainRule {line : List Char} (h : IsPlainRule line) {p : Progress}
    (hp : p.inRules = true) :
    readLine globals p line =
      Rule.read globals (trim line) >>= fun r => .ok (p.addRules [r]) := by
  have hkeyword : readKeyword p (trim line) = .ok (p, trim line) := by
    rw [readKeyword, h.noAxiom, h.noCount, h.noRules]
  have hlong : (p.inRules && decide (leastRuleLine ≤ (trim line).length)) = true := by
    rw [hp, Bool.true_and, decide_eq_true h.long]
  have hrule : readRuleLine globals p (trim line) =
      Rule.read globals (trim line) >>= fun r => .ok (p.addRules [r]) := by
    rw [readRuleLine, if_pos hlong]
    rfl
  rw [readLine, h.isSkipped, hkeyword, ← hrule]
  rfl

theorem foldlM_of_isPlainRule {ls : List (List Char)} (h : ∀ l ∈ ls, IsPlainRule l) {p : Progress}
    (hp : p.inRules = true) :
    ls.foldlM (readLine globals) p =
      (ls.mapM fun l => Rule.read globals (trim l)) >>= fun rules => .ok (p.addRules rules) := by
  induction ls generalizing p with
  | nil => exact congrArg Except.ok p.addRules_nil.symm
  | cons l ls ih =>
    have hl := h l List.mem_cons_self
    rw [List.foldlM_cons, readLine_of_isPlainRule hl hp, List.mapM_cons, bind_assoc, bind_assoc]
    refine bind_congr fun r => ?_
    have hr : (p.addRules [r]).inRules = true := hp
    rw [ok_bind, ih (fun l' hl' => h l' (List.mem_cons_of_mem _ hl')) hr, bind_assoc]
    refine bind_congr fun rules => ?_
    rw [Progress.addRules_addRules]
    rfl

/-! ## The lines of a description -/

theorem readRuleLine_of_not_inRules {p : Progress} (hp : p.inRules = false) (line : List Char) :
    readRuleLine globals p line = .ok p := by
  rw [readRuleLine, hp, Bool.false_and, if_neg Bool.false_ne_true]

theorem readLine_axiomLine {p : Progress} (hp : p.inRules = false) (cs : List Char) :
    readLine globals p ("Axiom:".toList ++ cs) =
      readAxiom (trimEnd cs) >>= fun symbols => .ok { p with symbols } := by
  have htrim : trim ("Axiom:".toList ++ cs) = "Axiom:".toList ++ trimEnd cs :=
    trim_append_cons (c := ':') rfl "Axiom".toList cs
  set line := "Axiom:".toList ++ trimEnd cs with hline
  have hkeyword : afterKeyword "axiom:".toList line = some (trimEnd cs) :=
    afterKeyword_eq_some_iff.2 ⟨_, hline, by decide⟩
  have hread : readKeyword p line =
      readAxiom (trimEnd cs) >>= fun symbols => .ok ({ p with symbols }, line) := by
    rw [readKeyword, hkeyword]
    rfl
  have hskip : Description.isSkipped line = false := rfl
  rw [readLine, htrim, hskip, if_neg Bool.false_ne_true, hread, bind_assoc]
  exact bind_congr fun symbols =>
    readRuleLine_of_not_inRules (p := { p with symbols }) hp line

theorem readLine_countLine {p : Progress} (hp : p.inRules = false) {n : ℕ}
    (hn : (natDigits n).length ≤ digitLimit) :
    readLine globals p ("Count:".toList ++ natDigits n) = .ok { p with count := some (n : ℤ) } := by
  have htrim : trim ("Count:".toList ++ natDigits n) = "Count:".toList ++ trimEnd (natDigits n) :=
    trim_append_cons (c := ':') rfl "Count".toList (natDigits n)
  have hblank : ∀ c ∈ natDigits n, isBlank c = false := fun c hc =>
    of_mem_numberAlphabet (P := fun c => isBlank c = false) (by decide)
      (mem_numberAlphabet_of_isDigit (isDigit_of_mem_natDigits hc))
  have hvalue : readInteger (trim (trimEnd (natDigits n))) = some (n : ℤ) := by
    rw [trim_trimEnd, trim_of_no_blank hblank, readInteger_natDigits, if_neg (Nat.not_lt.2 hn)]
  set line := "Count:".toList ++ trimEnd (natDigits n) with hline
  have hkeyword : afterKeyword "count:".toList line = some (trimEnd (natDigits n)) :=
    afterKeyword_eq_some_iff.2 ⟨_, hline, by decide⟩
  have hword : afterKeyword "axiom:".toList line = none :=
    afterKeyword_unique (by decide) (by decide) hkeyword
  have hread : readKeyword p line = .ok ({ p with count := some (n : ℤ) }, line) := by
    rw [readKeyword, hword, hkeyword, ← hvalue]
  have hskip : Description.isSkipped line = false := rfl
  rw [readLine, htrim, hskip, if_neg Bool.false_ne_true, hread]
  exact readRuleLine_of_not_inRules (p := { p with count := some (n : ℤ) }) hp line

theorem readLine_rulesLine (p : Progress) :
    readLine globals p "Rules:".toList = .ok { p with inRules := true } := rfl

/-- The description of a configuration is read by reading the axiom and the rules. -/
theorem read_descriptionChars {c : Configuration}
    (hcount : (natDigits c.count).length ≤ digitLimit)
    (hword : ∀ d ∈ c.axiomText.toList, isLineBreak d = false)
    (hrules : ∀ r ∈ c.rules, IsPlainRule r.toList) :
    Description.read globals c.descriptionChars =
      readAxiom (trimEnd c.axiomText.toList) >>= fun symbols =>
        (c.rules.mapM fun r => Rule.read globals (trim r.toList)) >>= fun rules =>
          .ok ⟨symbols, rules, some (c.count : ℤ)⟩ := by
  have hnoBreak : ∀ l ∈ c.descriptionLines, ∀ d ∈ l, isLineBreak d = false := by
    have hkeyword (k : List Char) (hk : k.all (!isLineBreak ·) = true) :
        ∀ d ∈ k, isLineBreak d = false := fun d hd => by
      simpa using List.all_eq_true.1 hk d hd
    have hdigits : ∀ d ∈ natDigits c.count, isLineBreak d = false := fun d hd =>
      of_mem_numberAlphabet (P := fun d => isLineBreak d = false) (by decide)
        (mem_numberAlphabet_of_isDigit (isDigit_of_mem_natDigits hd))
    intro l hl
    simp only [Configuration.descriptionLines, List.mem_cons, List.mem_map] at hl
    rcases hl with rfl | rfl | rfl | ⟨r, hr, rfl⟩
    · exact List.forall_mem_append.2 ⟨hkeyword _ (by decide), hword⟩
    · exact List.forall_mem_append.2 ⟨hkeyword _ (by decide), hdigits⟩
    · exact hkeyword _ (by decide)
    · exact (hrules r hr).noBreak
  have hplain : ∀ l ∈ c.rules.map String.toList, IsPlainRule l := by
    intro l hl
    obtain ⟨r, hr, rfl⟩ := List.mem_map.1 hl
    exact hrules r hr
  rw [Description.read, Configuration.descriptionChars, lines_flatMap hnoBreak,
    Configuration.descriptionLines, List.foldlM_cons, readLine_axiomLine rfl, bind_assoc,
    bind_assoc]
  refine bind_congr fun symbols => ?_
  rw [ok_bind, List.foldlM_cons, readLine_countLine rfl hcount, ok_bind, List.foldlM_cons,
    readLine_rulesLine, ok_bind, foldlM_of_isPlainRule hplain rfl, bind_assoc, List.mapM_map]
  rfl

end Description

end GrowthGrammar
