import GrowthGrammar.Proofs.Expression.Name
import GrowthGrammar.Proofs.Expression.NumberToken
import GrowthGrammar.Proofs.Expression.Tree
import GrowthGrammar.Proofs.Text.Trim

/-!
# The tokens of a tree's text

Not every list of parts is a text that can be cut up again: a word needs an end, and a sign may not
run into the next one.  `Legible d ls` says that parts stand side by side as they may, within `d`
parentheses.  The text of legible parts is respelled (`Legible.respell_chars`) and scanned
(`Legible.scansTo_line`) part by part, and the parts of a tree are legible (`Tree.isOperand`).
-/

namespace GrowthGrammar

open GrowthGrammar.Expression GrowthGrammar.Number GrowthGrammar.Text

/-! ## Parts and their tokens -/

theorem Identifier.isIdentifier_text (n : Identifier) : isIdentifier n.text.toList = true :=
  (isVariableName_iff.1 n.isName).1

theorem Identifier.exists_cons (n : Identifier) : ∃ c w, n.text.toList = c :: w :=
  List.exists_cons_of_ne_nil (ne_nil_of_isIdentifier n.isIdentifier_text)

/-- The token of an operator. -/
def UnaryOp.token : UnaryOp → Token
  | not => .keyword "not"
  | op => .mark op.sign

namespace Style

variable (s : Style)

/-- The token of a literal. -/
def token (x : Literal) : Token :=
  ((Token.number (s.number x ++ [' '])).map Prod.fst).getD .imaginary

/-- The token of a literal does not depend on what ends the number. -/
theorem number_token (x : Literal) :
    (∀ c r, Token.endsWord c = true →
      Token.number (s.number x ++ c :: r) = some (s.token x, c :: r)) ∧
    ∃ p, (s.token x).literal? = some p ∧ ∀ depth, p.check depth = .ok (.literal x.value) := by
  obtain ⟨t, p, hnumber, hliteral, hcheck⟩ := number_of_writes (s.writes x) x.finite
  have htoken : s.token x = t := by
    rw [token, hnumber ' ' [] rfl]
    rfl
  have hvalue := ofMagnitude_magnitude x.value
  rw [x.unsigned] at hvalue
  rw [htoken]
  rw [hvalue] at hcheck
  exact ⟨hnumber, p, hliteral, hcheck⟩

end Style

namespace Lexeme

variable (s : Style)

/-- The token of a part, if it is none of the blanks. -/
def token? : Lexeme → Option Token
  | blank => none
  | comma => some (.mark ",")
  | opening => some (.mark "(")
  | closing => some (.mark ")")
  | number x => some (s.token x)
  | word n => some (.name n.text)
  | unary op => some op.token
  | binary op => some (.mark op.sign)
  | connective op => some (.keyword (connectiveWord op))
  | comparator op => some (.mark op.sign)

/-- The text of a part in the spelling that is scanned. -/
def spelled (l : Lexeme) : List Char :=
  respell (l.chars s)

theorem spelled_number (x : Literal) : spelled s (number x) = s.number x :=
  respell_of_no_operator fun _ hc =>
    of_mem_numberAlphabet (P := (· ∉ respelled)) (by decide) ((s.writes x).mem_numberAlphabet hc)

theorem spelled_word (n : Identifier) : spelled s (word n) = n.text.toList :=
  respell_of_no_operator fun _ hc =>
    not_mem_of_mem_identifier n.isIdentifier_text rfl hc

theorem spelled_binary (op : BinaryOp) : spelled s (binary op) = op.sign.toList := by
  unfold spelled chars
  cases s.spelling <;> cases op <;> rfl

theorem spelled_comparator (op : Comparator) : spelled s (comparator op) = op.sign.toList := by
  cases op <;> rfl

/-- The word of a connective, between blanks if it is respelled. -/
theorem spelled_connective (op : Connective) :
    spelled s (connective op) = (connectiveWord op).toList ∨
      spelled s (connective op) = ' ' :: ((connectiveWord op).toList ++ [' ']) := by
  unfold spelled chars
  cases s.spelling
  · exact Or.inl (by cases op <;> rfl)
  · exact Or.inr (by cases op <;> rfl)

/-- The word `not` in front of a blank, and behind one if it is respelled. -/
theorem spelled_not :
    spelled s (unary .not) = "not".toList ++ [' '] ∨
      spelled s (unary .not) = ' ' :: ("not".toList ++ [' ']) := by
  unfold spelled chars
  cases s.spelling
  · exact Or.inl rfl
  · exact Or.inr rfl

/-- The part ends a word in front of it. -/
def isEnd : Lexeme → Bool
  | blank | comma | opening | closing => true
  | _ => false

/-- An operand may begin with the part. -/
def isStart : Lexeme → Bool
  | number _ | word _ | opening | unary _ => true
  | _ => false

end Lexeme

/-! ## Parts that stand side by side -/

/-- A word may stand in front of the parts. -/
def Ends (ls : List Lexeme) : Prop :=
  ∀ l ∈ ls.head?, l.isEnd = true

/-- The parts begin as an operand does. -/
def Starts (ls : List Lexeme) : Prop :=
  ∃ l r, ls = l :: r ∧ l.isStart = true

/-- Every part may stand in front of those behind it, and the parentheses behind `d` open ones are
closed in the end. -/
inductive Legible : ℕ → List Lexeme → Prop
  | done : Legible 0 []
  | blank {d : ℕ} {l : Lexeme} {r : List Lexeme} (h : Legible d (l :: r)) :
    Legible d (.blank :: l :: r)
  | comma {d : ℕ} {r : List Lexeme} (h : Legible d r) : Legible d (.comma :: r)
  | opening {d : ℕ} {r : List Lexeme} (h : Legible (d + 1) r) : Legible d (.opening :: r)
  | closing {d : ℕ} {r : List Lexeme} (h : Legible d r) : Legible (d + 1) (.closing :: r)
  | number {d : ℕ} {r : List Lexeme} (x : Literal) (hr : Ends r) (h : Legible d r) :
    Legible d (.number x :: r)
  | word {d : ℕ} {r : List Lexeme} (n : Identifier) (hr : Ends r) (h : Legible d r) :
    Legible d (.word n :: r)
  | unary {d : ℕ} {r : List Lexeme} (op : UnaryOp) (hr : Starts r) (h : Legible d r) :
    Legible d (.unary op :: r)
  | binary {d : ℕ} {r : List Lexeme} (op : BinaryOp) (h : Legible d (.blank :: r)) :
    Legible d (.binary op :: .blank :: r)
  | connective {d : ℕ} {r : List Lexeme} (op : Connective) (h : Legible d (.blank :: r)) :
    Legible d (.connective op :: .blank :: r)
  | comparator {d : ℕ} {r : List Lexeme} (op : Comparator) (h : Legible d (.blank :: r)) :
    Legible d (.comparator op :: .blank :: r)

namespace Style

variable (s : Style)

/-- The text of parts. -/
def chars (ls : List Lexeme) : List Char :=
  ls.flatMap (Lexeme.chars s)

/-- The text of parts in the spelling that is scanned. -/
def line (ls : List Lexeme) : List Char :=
  ls.flatMap (Lexeme.spelled s)

/-- The tokens of parts. -/
def tokens (ls : List Lexeme) : List Token :=
  ls.filterMap (Lexeme.token? s)

theorem chars_cons (l : Lexeme) (r : List Lexeme) : s.chars (l :: r) = l.chars s ++ s.chars r :=
  List.flatMap_cons

theorem line_cons (l : Lexeme) (r : List Lexeme) : s.line (l :: r) = l.spelled s ++ s.line r :=
  List.flatMap_cons

end Style

namespace Legible

variable (s : Style) {d : ℕ} {ls : List Lexeme}

/-! ### Respelling -/

/-- What begins as an operand goes on with no operator in front of it. -/
theorem exists_chars_of_starts (h : Starts ls) :
    ∃ c r, s.chars ls = c :: r ∧ c ∉ operatorTails := by
  obtain ⟨l, r, rfl, hl⟩ := h
  rw [Style.chars_cons]
  cases l with
  | opening => exact ⟨'(', _, rfl, by decide⟩
  | number x =>
    obtain ⟨d, w, hw, hd⟩ := (s.writes x).exists_cons
    refine ⟨d, w ++ s.chars r, by rw [Lexeme.chars, hw, List.cons_append], ?_⟩
    exact of_mem_numberAlphabet (P := (· ∉ operatorTails)) (by decide)
      (mem_numberAlphabet_of_isDigit hd)
  | word n =>
    obtain ⟨d, w, hw⟩ := n.exists_cons
    refine ⟨d, w ++ s.chars r, by rw [Lexeme.chars, hw, List.cons_append], ?_⟩
    exact not_mem_of_mem_identifier n.isIdentifier_text rfl (hw ▸ List.mem_cons_self)
  | unary op =>
    cases op with
    | negative => exact ⟨'-', _, rfl, by decide⟩
    | positive => exact ⟨'+', _, rfl, by decide⟩
    | not =>
      rw [Lexeme.chars]
      cases s.spelling
      · exact ⟨'n', _, rfl, by decide⟩
      · exact ⟨'!', _, rfl, by decide⟩
  | _ => cases hl

/-- The text of legible parts is respelled part by part. -/
theorem respell_chars (h : Legible d ls) : respell (s.chars ls) = s.line ls := by
  have hplain {l : Lexeme} {r : List Lexeme} (hl : ∀ c ∈ l.chars s, c ∉ respelled)
      (ih : respell (s.chars r) = s.line r) : respell (s.chars (l :: r)) = s.line (l :: r) := by
    rw [Style.chars_cons, respell_append_of_no_operator hl, ih, Style.line_cons, Lexeme.spelled,
      respell_of_no_operator hl]
  have hoperator {l : Lexeme} {r : List Lexeme}
      (hr : ∃ c t, s.chars r = c :: t ∧ c ∉ operatorTails) (ih : respell (s.chars r) = s.line r) :
      respell (s.chars (l :: r)) = s.line (l :: r) := by
    obtain ⟨c, t, hct, hc⟩ := hr
    rw [Style.chars_cons, hct, respell_append hc, ← hct, ih, Style.line_cons, Lexeme.spelled]
  have hgap (r : List Lexeme) : ∃ c t, s.chars (.blank :: r) = c :: t ∧ c ∉ operatorTails :=
    ⟨' ', _, rfl, by decide⟩
  induction h with
  | done => rfl
  | blank h ih | comma h ih | opening h ih | closing h ih =>
    exact hplain (by simp [Lexeme.chars, respelled]) ih
  | number x hr h ih =>
    refine hplain (fun c hc => ?_) ih
    exact of_mem_numberAlphabet (P := (· ∉ respelled)) (by decide)
      ((s.writes x).mem_numberAlphabet hc)
  | word n hr h ih =>
    exact hplain (fun c => not_mem_of_mem_identifier n.isIdentifier_text rfl) ih
  | unary op hr h ih => exact hoperator (exists_chars_of_starts s hr) ih
  | binary op h ih | connective op h ih | comparator op h ih => exact hoperator (hgap _) ih

/-! ### Scanning -/

/-- What begins as an operand begins with a token, or with one behind a blank. -/
theorem exists_line_of_starts (h : Starts ls) :
    ∃ b c r, s.line ls = b ++ c :: r ∧ (b = [] ∨ b = [' ']) ∧ isBlank c = false ∧
      c ∉ separators ∧ c ≠ '=' ∧ c ≠ '>' := by
  obtain ⟨l, r, rfl, hl⟩ := h
  rw [Style.line_cons]
  cases l with
  | opening => exact ⟨[], '(', _, rfl, Or.inl rfl, by decide⟩
  | number x =>
    obtain ⟨d, w, hw, hd⟩ := (s.writes x).exists_cons
    refine ⟨[], d, w ++ s.line r, by rw [Lexeme.spelled_number, hw]; rfl, Or.inl rfl, ?_⟩
    exact of_mem_numberAlphabet
      (P := fun c => isBlank c = false ∧ c ∉ separators ∧ c ≠ '=' ∧ c ≠ '>') (by decide)
      (mem_numberAlphabet_of_isDigit hd)
  | word n =>
    have hname := n.isIdentifier_text
    obtain ⟨d, w, hw⟩ := n.exists_cons
    have hd : d ∈ n.text.toList := hw ▸ List.mem_cons_self
    refine ⟨[], d, w ++ s.line r, by rw [Lexeme.spelled_word, hw]; rfl, Or.inl rfl,
      isBlank_of_mem_identifier hname hd, not_mem_of_mem_identifier hname rfl hd, ?_, ?_⟩
    · exact ne_of_mem_identifier hname rfl hd
    · exact ne_of_mem_identifier hname rfl hd
  | unary op =>
    cases op with
    | negative => exact ⟨[], '-', _, rfl, Or.inl rfl, by decide⟩
    | positive => exact ⟨[], '+', _, rfl, Or.inl rfl, by decide⟩
    | not =>
      rcases Lexeme.spelled_not s with hs | hs
      · exact ⟨[], 'n', _, by rw [hs]; rfl, Or.inl rfl, by decide⟩
      · exact ⟨[' '], 'n', _, by rw [hs]; rfl, Or.inr rfl, by decide⟩
  | _ => cases hl

/-- What may stand behind a word ends it. -/
theorem exists_line_of_ends (h : Ends ls) :
    ∃ c r, s.line ls ++ ['\n'] = c :: r ∧ Token.endsWord c = true := by
  cases ls with
  | nil => exact ⟨'\n', [], rfl, rfl⟩
  | cons l r =>
    have hl := h l rfl
    cases l with
    | blank => exact ⟨' ', _, rfl, rfl⟩
    | comma => exact ⟨',', _, rfl, rfl⟩
    | opening => exact ⟨'(', _, rfl, rfl⟩
    | closing => exact ⟨')', _, rfl, rfl⟩
    | _ => cases hl

/-- A connective in front of a blank. -/
theorem scansTo_connective (op : Connective) {cs : List Char} {ts : List Token}
    (h : ScansTo d (' ' :: cs) ts) :
    ScansTo d (Lexeme.spelled s (.connective op) ++ ' ' :: cs)
      (.keyword (connectiveWord op) :: ts) := by
  have hword {r : List Char} (hr : ScansTo d (' ' :: r) ts) :
      ScansTo d ((connectiveWord op).toList ++ ' ' :: r) (.keyword (connectiveWord op) :: ts) := by
    cases op <;> exact .keyword rfl rfl rfl hr
  rcases Lexeme.spelled_connective s op with hs | hs
  · rw [hs]
    exact hword h
  · rw [hs, List.cons_append, List.append_assoc]
    exact scansTo_gap.2 (hword (scansTo_gap.2 h))

/-- A sign in front of an operand. -/
theorem scansTo_unary (op : UnaryOp) {cs : List Char} {ts : List Token} (hs : Starts ls)
    (hcs : cs = s.line ls ++ ['\n']) (h : ScansTo d cs ts) :
    ScansTo d (Lexeme.spelled s (.unary op) ++ cs) (op.token :: ts) := by
  obtain ⟨b, c, r, hline, hb, -, -, hequals, harrow⟩ := exists_line_of_starts s hs
  obtain ⟨x, t, rfl, hx, hx'⟩ : ∃ x t, cs = x :: t ∧ x ≠ '=' ∧ x ≠ '>' := by
    rw [hline] at hcs
    rcases hb with rfl | rfl
    · exact ⟨c, _, hcs, hequals, harrow⟩
    · exact ⟨' ', _, hcs, by decide, by decide⟩
  have hnot : ScansTo d ("not".toList ++ ' ' :: x :: t) (.keyword "not" :: ts) :=
    .keyword rfl rfl rfl (scansTo_gap.2 h)
  cases op with
  | negative => exact .token (w := []) (by decide) (next_minus hx hx' t) rfl h
  | positive => exact .token (w := []) (by decide) (next_plus hx t) rfl h
  | not =>
    rcases Lexeme.spelled_not s with hs | hs
    · rw [hs, List.append_assoc]
      exact hnot
    · rw [hs, List.cons_append, List.append_assoc]
      exact scansTo_gap.2 hnot

/-- The text of legible parts is scanned to their tokens. -/
theorem scansTo_line (h : Legible d ls) : ScansTo d (s.line ls ++ ['\n']) (s.tokens ls) := by
  induction h with
  | done => exact scansTo_newline
  | blank h ih => exact scansTo_gap.2 ih
  | comma h ih | opening h ih | closing h ih => exact ScansTo.token (w := []) (by decide) rfl rfl ih
  | number x hr h ih =>
    obtain ⟨c, t, hct, hc⟩ := exists_line_of_ends s hr
    obtain ⟨hnumber, p, hliteral, -⟩ := s.number_token x
    rw [Style.line_cons, Lexeme.spelled_number, List.append_assoc, hct]
    exact .number (s.writes x) (hnumber c t hc) hliteral (hct ▸ ih)
  | word n hr h ih =>
    obtain ⟨c, t, hct, hc⟩ := exists_line_of_ends s hr
    have hscan := ScansTo.name n.isName hc (hct ▸ ih)
    rw [composed_of_ascii n.ascii, String.ofList_toList] at hscan
    rw [Style.line_cons, Lexeme.spelled_word, List.append_assoc, hct]
    exact hscan
  | @unary d r op hr h ih =>
    rw [Style.line_cons, List.append_assoc]
    exact scansTo_unary s op hr rfl ih
  | binary op h ih =>
    rw [Style.line_cons, Lexeme.spelled_binary, List.append_assoc]
    cases op <;> exact ScansTo.token (by decide) rfl rfl ih
  | connective op h ih =>
    rw [Style.line_cons, List.append_assoc]
    exact scansTo_connective s op ih
  | comparator op h ih =>
    rw [Style.line_cons, Lexeme.spelled_comparator, List.append_assoc]
    cases op <;> exact ScansTo.token (by decide) rfl rfl ih

/-! ### Blanks at the ends -/

theorem spelled_ne_nil (l : Lexeme) : l.spelled s ≠ [] := by
  cases l with
  | blank | comma | opening | closing => exact List.cons_ne_nil _ _
  | number x =>
    obtain ⟨d, w, hw, -⟩ := (s.writes x).exists_cons
    rw [Lexeme.spelled_number, hw]
    exact List.cons_ne_nil _ _
  | word n =>
    rw [Lexeme.spelled_word]
    exact ne_nil_of_isIdentifier n.isIdentifier_text
  | unary op =>
    cases op with
    | negative | positive => exact List.cons_ne_nil _ _
    | not => rcases Lexeme.spelled_not s with hs | hs <;> exact hs ▸ List.cons_ne_nil _ _
  | binary op =>
    rw [Lexeme.spelled_binary]
    cases op <;> exact List.cons_ne_nil _ _
  | connective op =>
    rcases Lexeme.spelled_connective s op with hs | hs <;> rw [hs] <;> cases op <;>
      exact List.cons_ne_nil _ _
  | comparator op =>
    rw [Lexeme.spelled_comparator]
    cases op <;> exact List.cons_ne_nil _ _

theorem line_ne_nil (l : Lexeme) (r : List Lexeme) : s.line (l :: r) ≠ [] := by
  rw [Style.line_cons]
  exact List.append_ne_nil_of_left_ne_nil (spelled_ne_nil s l) _

/-- The text of legible parts ends with no blank. -/
theorem trimEnd_line (h : Legible d ls) : trimEnd (s.line ls) = s.line ls := by
  have hfront {l : Lexeme} {r : List Lexeme} (hr : trimEnd (s.line r) = s.line r)
      (hl : r = [] → ∀ c ∈ l.spelled s, isBlank c = false) :
      trimEnd (s.line (l :: r)) = s.line (l :: r) := by
    rw [Style.line_cons]
    cases r with
    | nil =>
      have hnil : s.line [] = [] := rfl
      rw [hnil, List.append_nil, trimEnd_of_no_blank (hl rfl)]
    | cons m r =>
      have hblank : isBlankText (s.line (m :: r)) = false :=
        Bool.eq_false_iff.2 fun hb => line_ne_nil s m r (hr ▸ trimEnd_eq_nil_iff.2 hb)
      rw [trimEnd_append hblank, hr]
  induction h with
  | done => rfl
  | blank h ih => exact hfront ih nofun
  | comma h ih | opening h ih | closing h ih =>
    refine hfront ih fun _ c hc => ?_
    obtain rfl := List.mem_singleton.1 hc
    rfl
  | number x hr h ih =>
    refine hfront ih fun _ c hc => ?_
    rw [Lexeme.spelled_number] at hc
    exact of_mem_numberAlphabet (P := fun c => isBlank c = false) (by decide)
      ((s.writes x).mem_numberAlphabet hc)
  | word n hr h ih =>
    refine hfront ih fun _ c hc => ?_
    rw [Lexeme.spelled_word] at hc
    exact isBlank_of_mem_identifier n.isIdentifier_text hc
  | unary op hr h ih =>
    obtain ⟨l, r, rfl, -⟩ := hr
    exact hfront ih nofun
  | binary op h ih | connective op h ih | comparator op h ih => exact hfront ih nofun

/-! ### The whole text -/

/-- Characters that no part is written with. -/
def unwritten : List Char :=
  ['\r', '\x00']

theorem not_mem_of_all {c : Char} (hc : c ∈ unwritten) {cs : List Char}
    (h : unwritten.all (fun c => !cs.contains c) = true) : c ∉ cs := by
  simpa using List.all_eq_true.1 h c hc

theorem not_mem_spelled (l : Lexeme) {c : Char} (hc : c ∈ unwritten) : c ∉ l.spelled s := by
  intro hmem
  cases l with
  | blank | comma | opening | closing => exact not_mem_of_all hc rfl hmem
  | number x =>
    rw [Lexeme.spelled_number] at hmem
    exact of_mem_numberAlphabet (P := (· ∉ unwritten)) (by decide)
      ((s.writes x).mem_numberAlphabet hmem) hc
  | word n =>
    rw [Lexeme.spelled_word] at hmem
    exact not_mem_of_mem_identifier n.isIdentifier_text rfl hmem hc
  | unary op =>
    cases op with
    | negative | positive => exact not_mem_of_all hc rfl hmem
    | not =>
      rcases Lexeme.spelled_not s with hs | hs
      all_goals
        rw [hs] at hmem
        exact not_mem_of_all hc rfl hmem
  | binary op =>
    rw [Lexeme.spelled_binary] at hmem
    cases op <;> exact not_mem_of_all hc rfl hmem
  | connective op =>
    rcases Lexeme.spelled_connective s op with hs | hs
    all_goals
      rw [hs] at hmem
      cases op <;> exact not_mem_of_all hc rfl hmem
  | comparator op =>
    rw [Lexeme.spelled_comparator] at hmem
    cases op <;> exact not_mem_of_all hc rfl hmem

theorem not_mem_line (ls : List Lexeme) {c : Char} (hc : c ∈ unwritten) : c ∉ s.line ls := by
  intro hmem
  obtain ⟨l, -, hl⟩ := List.mem_flatMap.1 hmem
  exact not_mem_spelled s l hc hl

/-- The text of parts that begin as an operand does is scanned to their tokens, once it is in its
normal form. -/
theorem scan_normalForm (h : Legible 0 ls) (hs : Starts ls) :
    ∃ c r, normalForm (s.chars ls) = c :: r ∧ '\x00' ∉ c :: r ∧
      Token.scan (c :: r) = some (s.tokens ls) := by
  obtain ⟨b, c, r, hline, hb, hblank, hsep, -, -⟩ := exists_line_of_starts s hs
  have hend := trimEnd_line s h
  have hscan := scansTo_line s h
  have hchars : ∀ d ∈ unwritten, d ∉ c :: r := by
    intro d hd hmem
    exact not_mem_line s ls hd (hline ▸ List.mem_append_right b hmem)
  have hnotBlank : isBlankText (c :: r) = false := by
    rw [isBlankText, List.all_cons, hblank]
    rfl
  have hbBlank : isBlankText b = true := by
    rcases hb with rfl | rfl <;> rfl
  have hform : normalForm (s.chars ls) = c :: r := by
    rw [hline, trimEnd_append hnotBlank] at hend
    rw [normalForm, respell_chars s h, hline, trim_blank_append hbBlank, trim,
      trimStart_of_head hblank]
    exact List.append_cancel_left hend
  have hrest : ScansTo 0 (c :: (r ++ ['\n'])) (s.tokens ls) := by
    rw [hline] at hscan
    rcases hb with rfl | rfl
    · exact hscan
    · exact scansTo_gap.1 hscan
  exact ⟨c, r, hform, hchars _ (by decide), scan_of_scansTo hsep (hchars _ (by decide)) hrest⟩

end Legible

/-! ## The parts of a tree -/

theorem Starts.append {a : List Lexeme} (h : Starts a) (b : List Lexeme) : Starts (a ++ b) := by
  obtain ⟨l, r, rfl, hl⟩ := h
  exact ⟨l, r ++ b, rfl, hl⟩

theorem ends_cons {l : Lexeme} (hl : l.isEnd = true) (r : List Lexeme) : Ends (l :: r) := by
  intro m hm
  obtain rfl := Option.some.inj hm
  exact hl

/-- The parts are an operand: they begin as one, and fit in front of what may stand behind one. -/
structure IsOperand (ls : List Lexeme) : Prop where
  starts : Starts ls
  legible : ∀ {d : ℕ} {r : List Lexeme}, Ends r → Legible d r → Legible d (ls ++ r)

namespace IsOperand

variable {a b : List Lexeme}

theorem embrace (h : IsOperand a) : IsOperand (.opening :: (a ++ [.closing])) where
  starts := ⟨.opening, _, rfl, rfl⟩
  legible hr hlegible := by
    have hclosing := h.legible (ends_cons rfl _) hlegible.closing
    rw [List.cons_append, List.append_assoc]
    exact hclosing.opening

theorem enclose (needed : ℕ) (e : Tree) (h : IsOperand a) :
    IsOperand (Tree.enclose needed e a) := by
  unfold Tree.enclose
  split_ifs
  · exact h.embrace
  · exact h

theorem unary (op : UnaryOp) (h : IsOperand a) : IsOperand (.unary op :: a) where
  starts := ⟨.unary op, _, rfl, rfl⟩
  legible hr hlegible := .unary op (h.starts.append _) (h.legible hr hlegible)

/-- Operands with an operator between them, which stands between blanks. -/
theorem join (ha : IsOperand a) (hb : IsOperand b) {l : Lexeme}
    (hl : ∀ {d : ℕ} {r : List Lexeme}, Legible d (.blank :: r) → Legible d (l :: .blank :: r)) :
    IsOperand (a ++ .blank :: l :: .blank :: b) where
  starts := ha.starts.append _
  legible {d r} hr hlegible := by
    have hbehind := hb.legible hr hlegible
    obtain ⟨m, t, hm, -⟩ := hb.starts.append r
    have hblank : Legible d (.blank :: (b ++ r)) := by
      rw [hm] at hbehind ⊢
      exact .blank hbehind
    rw [List.append_assoc]
    exact ha.legible (ends_cons rfl _) (.blank (hl hblank))

end IsOperand

namespace Tree

theorem isOperand_links {links : List (Comparator × Tree)}
    (hlinks : ∀ link ∈ links, IsOperand (lexemes link.2)) {a : List Lexeme} (ha : IsOperand a) :
    IsOperand (a ++ linkLexemes links) := by
  induction links generalizing a with
  | nil => rwa [linkLexemes, List.append_nil]
  | cons link r ih =>
    obtain ⟨hlink, hr⟩ := List.forall_mem_cons.1 hlinks
    rw [linkLexemes]
    exact ha.join (ih hr (hlink.enclose _ _)) (.comparator link.1)

theorem legible_moreArguments {args : List Tree} (hargs : ∀ e ∈ args, IsOperand (lexemes e))
    {d : ℕ} {r : List Lexeme} (hr : Legible d r) :
    Legible (d + 1) (moreArgumentLexemes args ++ .closing :: r) ∧
      Ends (moreArgumentLexemes args ++ .closing :: r) := by
  induction args with
  | nil => exact ⟨hr.closing, ends_cons rfl r⟩
  | cons e es ih =>
    obtain ⟨he, hes⟩ := List.forall_mem_cons.1 hargs
    obtain ⟨hmore, hends⟩ := ih hes
    have hbehind := he.legible hends hmore
    obtain ⟨l, t, hl, -⟩ := he.starts.append (moreArgumentLexemes es ++ .closing :: r)
    rw [moreArgumentLexemes, List.cons_append, List.cons_append, List.append_assoc]
    rw [hl] at hbehind ⊢
    exact ⟨hbehind.blank.comma, ends_cons rfl _⟩

theorem legible_arguments {args : List Tree} (hargs : ∀ e ∈ args, IsOperand (lexemes e))
    {d : ℕ} {r : List Lexeme} (hr : Legible d r) :
    Legible (d + 1) (argumentLexemes args ++ .closing :: r) := by
  cases args with
  | nil => exact hr.closing
  | cons e es =>
    obtain ⟨he, hes⟩ := List.forall_mem_cons.1 hargs
    obtain ⟨hmore, hends⟩ := legible_moreArguments hes hr
    rw [argumentLexemes, List.append_assoc]
    exact he.legible hends hmore

/-- The parts of a tree are an operand. -/
theorem isOperand (e : Tree) : IsOperand (lexemes e) := by
  induction e with
  | number x =>
    exact ⟨⟨.number x, [], rfl, rfl⟩, fun hr h => .number x hr h⟩
  | name n =>
    exact ⟨⟨.word n, [], rfl, rfl⟩, fun hr h => .word n hr h⟩
  | unary op e ih => exact (ih.enclose _ _).unary op
  | binary op l r hl hr => exact (hl.enclose _ _).join (hr.enclose _ _) (.binary op)
  | connective op l r hl hr => exact (hl.enclose _ _).join (hr.enclose _ _) (.connective op)
  | comparison first op second rest hfirst hsecond hrest =>
    exact (hfirst.enclose _ _).join (isOperand_links hrest (hsecond.enclose _ _)) (.comparator op)
  | call f args hargs =>
    refine ⟨⟨.word f.identifier, _, rfl, rfl⟩, fun {d r} hr h => ?_⟩
    have harguments := legible_arguments hargs h
    rw [lexemes, List.cons_append, List.cons_append, List.append_assoc]
    exact .word f.identifier (ends_cons rfl _) harguments.opening

end Tree

end GrowthGrammar
