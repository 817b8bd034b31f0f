import GrowthGrammar.Axiom
import GrowthGrammar.Proofs.Bracket.Matching
import GrowthGrammar.Proofs.Word.Brackets

/-!
# The grammar of axioms

A module is a name, or a name and arguments between brackets (`IsModule`).  Main statement: an axiom
is read exactly if every piece between its semicolons is a module with a name whose arguments are
constants, and then as these; else the first piece that is none says what is wrong
(`readAxiom_grammar`).
-/

namespace GrowthGrammar

open GrowthGrammar.Text

variable {cs piece name : List Char} {args : List (List Char)} {kind : GrammarKind}

/-! ## Modules -/

/-- The text is a module with a name and arguments: the name alone, or the name and a pair of
brackets behind it that holds blanks or the arguments, with commas between them. -/
inductive IsModule : List Char → List Char → List (List Char) → Prop
  | bare {piece : List Char} (h : '(' ∉ piece) : IsModule piece (trim piece) []
  | empty {name inner t : List Char} (hname : '(' ∉ name) (hinner : isBlankText inner = true)
      (ht : isBlankText t = true) : IsModule (name ++ '(' :: (inner ++ ')' :: t)) (trim name) []
  | full {name t : List Char} {args : List (List Char)} (hname : '(' ∉ name)
      (hargs : ∀ p ∈ args, IsArgumentFrom 0 p) (hinner : isBlankText ([','].intercalate args) = false)
      (ht : isBlankText t = true) :
      IsModule (name ++ '(' :: ([','].intercalate args ++ ')' :: t)) (trim name) args

/-- The first opening bracket of the text has no closing one. -/
def IsUnclosed (piece : List Char) : Prop :=
  ∃ a r, piece = a ++ '(' :: r ∧ '(' ∉ a ∧ ∀ j, ¬IsPair '(' ')' piece a.length j

theorem closingOffset_eq_none_iff {a r : List Char} :
    closingOffset (isOnly "(") (isOnly ")") 0 r = none ↔
      ∀ j, ¬IsPair '(' ')' (a ++ '(' :: r) a.length j := by
  have hne : '(' ≠ ')' := by decide
  rw [Option.eq_none_iff_forall_not_mem]
  constructor
  · intro h j hpair
    obtain ⟨k, hk, -⟩ := (isPair_append hne).1 hpair
    exact h k ((closingOffset_eq_some_iff hne).2 hk)
  · intro h k hk
    exact h _ ((isPair_append hne).2 ⟨k, (closingOffset_eq_some_iff hne).1 hk, rfl⟩)

theorem splitHead_eq_ok_iff :
    (∃ inner, splitHead kind piece = .ok (name, inner) ∧ splitArguments inner = args) ↔
      IsModule piece name args := by
  constructor
  · rintro ⟨inner, h, rfl⟩
    by_cases hmem : '(' ∈ piece
    · obtain ⟨a, r, rfl, ha⟩ := List.eq_append_cons_of_mem hmem
      rw [splitHead_append kind ha] at h
      cases hk : closingOffset (isOnly "(") (isOnly ")") 0 r with
      | none =>
        rw [hk] at h
        cases h
      | some k =>
        simp only [hk] at h
        split_ifs at h with hrest
        obtain ⟨rfl, rfl⟩ := Prod.mk.inj (Except.ok.inj h)
        obtain ⟨s, c, t, rfl, rfl, -, hclose⟩ := exists_append_of_closingOffset hk
        obtain rfl : c = ')' := isOnly_singleton.1 hclose
        have hdrop : (s ++ ')' :: t).drop (s.length + 1) = t := by
          rw [List.drop_length_add_append]
          rfl
        rw [hdrop, List.isEmpty_iff, trim_eq_nil_iff] at hrest
        rw [List.take_left, splitArguments]
        split_ifs with hblank
        · exact .empty ha hblank hrest
        · obtain ⟨p, ps, hcut, hp, hps⟩ := isArgument_of_closingOffset hk
          rw [List.take_left] at hcut
          have hjoin := intercalate_cutArguments 0 s
          have hargs : ∀ q ∈ cutArguments 0 s, IsArgumentFrom 0 q := by
            rw [hcut]
            exact List.forall_mem_cons.2 ⟨hp, hps⟩
          have hmodule := IsModule.full ha hargs (by rwa [hjoin, ← Bool.not_eq_true]) hrest
          rwa [hjoin] at hmodule
    · rw [splitHead_of_no_bracket kind hmem] at h
      obtain ⟨rfl, rfl⟩ := Prod.mk.inj (Except.ok.inj h)
      exact .bare hmem
  · intro h
    cases h with
    | bare h => exact ⟨none, splitHead_of_no_bracket kind h, rfl⟩
    | @empty name inner t hname hinner ht =>
      have hplain : ∀ c ∈ inner, c ≠ '(' ∧ c ≠ ')' := by
        intro c hc
        have hblank := isBlankText_iff.1 hinner c hc
        constructor <;> (rintro rfl; cases hblank)
      exact ⟨some inner, splitHead_brackets kind hname hplain ht, by
        rw [splitArguments, if_pos hinner]⟩
    | full hname hargs hinner ht =>
      have hne : args ≠ [] := by
        rintro rfl
        cases hinner
      refine ⟨_, splitHead_arguments kind hname hargs ht, ?_⟩
      rw [splitArguments, hinner, if_neg Bool.false_ne_true, cutArguments_joined hne hargs]

theorem exists_bracket_iff :
    (∃ e, splitHead kind piece = .error (.bracket e)) ↔ IsUnclosed piece := by
  constructor
  · rintro ⟨e, h⟩
    by_cases hmem : '(' ∈ piece
    · obtain ⟨a, r, rfl, ha⟩ := List.eq_append_cons_of_mem hmem
      rw [splitHead_append kind ha] at h
      cases hk : closingOffset (isOnly "(") (isOnly ")") 0 r with
      | none => exact ⟨a, r, rfl, ha, closingOffset_eq_none_iff.1 hk⟩
      | some k =>
        simp only [hk] at h
        split_ifs at h
        cases h
    · rw [splitHead_of_no_bracket kind hmem] at h
      cases h
  · rintro ⟨a, r, rfl, ha, hnone⟩
    rw [splitHead_append kind ha, closingOffset_eq_none_iff.2 hnone]
    exact ⟨_, rfl⟩

/-- What is no module has a bracket that is not closed, or text behind its brackets. -/
theorem errorClass_splitHead {e : Error} (h : splitHead kind piece = .error e) :
    (∃ b, e = .bracket b) ∨ e.errorClass = .grammar kind := by
  unfold splitHead at h
  split at h
  · cases h
  · split at h
    · exact Or.inl ⟨_, (Except.error.inj h).symm⟩
    · dsimp only at h
      split_ifs at h
      · obtain rfl := Except.error.inj h
        exact Or.inr rfl

/-! ## Symbols -/

/-- The double that a text is as a constant expression. -/
def constantValue (cs : List Char) : Except Error Float := do
  let q ← Quantity.readConstant cs
  q.evaluate .empty

/-- The text is a module that writes the symbol: it has the name of the symbol, which is not empty,
and constants for its parameters. -/
def WritesSymbol (piece : List Char) (s : Symbol) : Prop :=
  s.name ≠ "" ∧ ∃ args, IsModule piece s.name.toList args ∧
    List.Forall₂ (fun p x => constantValue p = .ok x) args s.parameters

/-- No argument of the text as a module fails with anything but an error of an expression. -/
def FailsInExpressions (piece : List Char) : Prop :=
  ∀ name args, IsModule piece name args → ∀ p ∈ args, ∀ e, constantValue p = .error e →
    ∃ e', e = .expression e'

theorem readConstant_eq_mapError : readConstant cs = (constantValue cs).mapError (.inAxiom cs) :=
  rfl

theorem readConstant_eq_ok_iff {x : Float} : readConstant cs = .ok x ↔ constantValue cs = .ok x :=
  mapError_eq_ok

theorem readSymbol_eq_ok_iff {s : Symbol} : readSymbol piece = .ok s ↔ WritesSymbol piece s := by
  rw [readSymbol, bind_eq_ok]
  constructor
  · rintro ⟨⟨name, inner⟩, hhead, h⟩
    dsimp only at h
    split_ifs at h with hempty
    · obtain ⟨ps, hps, h⟩ := bind_eq_ok.1 h
      obtain rfl := Except.ok.inj h
      refine ⟨?_, splitArguments inner, ?_, ?_⟩
      · rwa [ne_eq, String.ofList_eq_empty_iff, ← List.isEmpty_iff]
      · rw [String.toList_ofList]
        exact splitHead_eq_ok_iff.1 ⟨inner, hhead, rfl⟩
      · exact (mapM_eq_ok_iff.1 hps).imp fun _ _ => readConstant_eq_ok_iff.1
  · rintro ⟨hname, args, hmodule, hargs⟩
    obtain ⟨inner, hhead, rfl⟩ := splitHead_eq_ok_iff.2 hmodule
    refine ⟨_, hhead, ?_⟩
    have hempty : s.name.toList.isEmpty = false := by
      rwa [List.isEmpty_eq_false_iff, ne_eq, String.toList_eq_nil_iff]
    have hps := mapM_eq_ok_iff.2 (hargs.imp fun _ _ => readConstant_eq_ok_iff.2)
    dsimp only
    rw [hempty, if_neg Bool.false_ne_true, hps, String.ofList_toList]
    rfl

theorem errorClass_readSymbol {e : Error} (h : readSymbol piece = .error e)
    (hargs : FailsInExpressions piece) :
    (IsUnclosed piece → e.errorClass = .bracket) ∧
      (¬IsUnclosed piece → e.errorClass = .grammar .axiomParameter) := by
  rcases bind_eq_error.1 h with hhead | ⟨⟨name, inner⟩, hhead, h⟩
  · rcases errorClass_splitHead hhead with ⟨b, rfl⟩ | hclass
    · exact ⟨fun _ => rfl, fun hclosed => absurd (exists_bracket_iff.1 ⟨b, hhead⟩) hclosed⟩
    · refine ⟨fun hunclosed => ?_, fun _ => hclass⟩
      obtain ⟨b, hb⟩ := exists_bracket_iff.2 hunclosed
      obtain rfl := Except.error.inj (hb.symm.trans hhead)
      cases hclass
  · have hclosed : ¬IsUnclosed piece := by
      intro hunclosed
      obtain ⟨b, hb⟩ := exists_bracket_iff.2 hunclosed
      cases hb.symm.trans hhead
    refine ⟨fun hunclosed => absurd hunclosed hclosed, fun _ => ?_⟩
    dsimp only at h
    split_ifs at h
    · obtain rfl := Except.error.inj h
      rfl
    · rw [bind_eq_error_left fun _ h => by cases h] at h
      obtain ⟨p, hp, he⟩ := exists_mem_of_mapM_error h
      have hmodule := splitHead_eq_ok_iff.1 ⟨inner, hhead, rfl⟩
      rw [readConstant_eq_mapError] at he
      cases hvalue : constantValue p with
      | ok x =>
        rw [hvalue] at he
        cases he
      | error e' =>
        obtain ⟨e'', rfl⟩ := hargs name _ hmodule p hp e' hvalue
        rw [hvalue] at he
        obtain rfl := Except.error.inj he
        rfl

/-! ## Axioms -/

/-- The pieces of an axiom that are not blank. -/
def axiomPieces (cs : List Char) : List (List Char) :=
  (splitAt ';' cs).filter fun piece => !isBlankText piece

theorem axiomPieces_append (cs t : List Char) :
    axiomPieces (cs ++ ';' :: t) = axiomPieces cs ++ axiomPieces t := by
  rw [axiomPieces, splitAt_append_sep, List.filter_append]
  rfl

theorem readAxiom_append (cs t : List Char) :
    readAxiom (cs ++ ';' :: t) =
      readAxiom cs >>= fun word => readAxiom t >>= fun rest => .ok (word ++ rest) := by
  change (axiomPieces (cs ++ ';' :: t)).mapM readSymbol = _
  rw [axiomPieces_append, List.mapM_append]
  rfl

/-! ## Main statement -/

/-- An axiom is read exactly if each of its pieces writes a symbol, and is read as these symbols.
Else its error is that of the first piece that writes none: a bracket of it is not closed, or it is
no parameter of an axiom for another reason.  Axioms with a semicolon between them are read one
after the other. -/
theorem readAxiom_grammar (cs : List Char) :
    (∀ word, readAxiom cs = .ok word ↔ List.Forall₂ WritesSymbol (axiomPieces cs) word) ∧
      ((¬∃ word, List.Forall₂ WritesSymbol (axiomPieces cs) word) →
        ∃ before piece after e, axiomPieces cs = before ++ piece :: after ∧
          (∀ p ∈ before, ∃ s, WritesSymbol p s) ∧ (¬∃ s, WritesSymbol piece s) ∧
          readAxiom cs = .error e ∧
          (FailsInExpressions piece →
            (IsUnclosed piece → e.errorClass = .bracket) ∧
              (¬IsUnclosed piece → e.errorClass = .grammar .axiomParameter))) ∧
      ∀ t, readAxiom (cs ++ ';' :: t) =
        readAxiom cs >>= fun word => readAxiom t >>= fun rest => .ok (word ++ rest) := by
  have hok (word : List Symbol) :
      readAxiom cs = .ok word ↔ List.Forall₂ WritesSymbol (axiomPieces cs) word := by
    change (axiomPieces cs).mapM readSymbol = _ ↔ _
    simp only [mapM_eq_ok_iff, readSymbol_eq_ok_iff]
  refine ⟨hok, fun hnone => ?_, readAxiom_append cs⟩
  cases hread : readAxiom cs with
  | ok word => exact absurd ⟨word, (hok word).1 hread⟩ hnone
  | error e =>
    obtain ⟨before, piece, after, hpieces, hbefore, he⟩ :=
      (mapM_eq_error_iff fun _ _ => Iff.rfl).1 hread
    refine ⟨before, piece, after, e, hpieces, fun p hp => ?_, ?_, rfl, errorClass_readSymbol he⟩
    · obtain ⟨s, hs⟩ := hbefore p hp
      exact ⟨s, readSymbol_eq_ok_iff.1 hs⟩
    · rintro ⟨s, hs⟩
      cases he.symm.trans (readSymbol_eq_ok_iff.2 hs)

/-- An axiom with brackets in its arguments, one with a bracket that is not closed, and one with a
module that has no name. -/
theorem readAxiom_grammar_mixed :
    (∃ word, List.Forall₂ WritesSymbol (axiomPieces "A(1, max(2,3)); B; ;C( )".toList) word ∧
      wordText word = "A(1,3); B; C") ∧
    (∃ e, readAxiom "B(1".toList = .error e ∧ e.errorClass = .bracket) ∧
    ∃ e, readAxiom "(2)".toList = .error e ∧ e.errorClass = .grammar .axiomParameter := by
  have hmixed : okAnd (fun word => wordText word == "A(1,3); B; C")
      (readAxiom "A(1, max(2,3)); B; ;C( )".toList) = true := by decide +kernel
  have hone {cs : List Char} (hpieces : axiomPieces cs = [cs])
      (hfails : errorAnd (fun _ => true) (readAxiom cs) = true) (hargs : FailsInExpressions cs) :
      ∃ e, readAxiom cs = .error e ∧ (IsUnclosed cs → e.errorClass = .bracket) ∧
        (¬IsUnclosed cs → e.errorClass = .grammar .axiomParameter) := by
    obtain ⟨hok, herror, -⟩ := readAxiom_grammar cs
    obtain ⟨before, piece, after, e, hsplit, -, -, he, hclass⟩ := herror (by
      rintro ⟨word, hword⟩
      rw [(hok word).2 hword] at hfails
      cases hfails)
    rw [hpieces] at hsplit
    obtain ⟨-, hcons⟩ := (List.append_eq_singleton_iff.1 hsplit.symm).resolve_right (by simp)
    obtain ⟨rfl, -⟩ := List.cons.inj hcons
    exact ⟨e, he, hclass hargs⟩
  refine ⟨?_, ?_, ?_⟩
  · obtain ⟨word, hword, htext⟩ := okAnd_iff.1 hmixed
    exact ⟨word, ((readAxiom_grammar _).1 word).1 hword, beq_iff_eq.1 htext⟩
  · have hhead : splitHead .axiomParameter "B(1".toList =
        .error (.bracket (.unclosed ")" "(" 1 "B(1")) := rfl
    have hargs : FailsInExpressions "B(1".toList := by
      intro name args hmodule
      obtain ⟨inner, hinner, -⟩ := splitHead_eq_ok_iff.2 hmodule
      cases hhead.symm.trans hinner
    obtain ⟨e, he, hclass, -⟩ := hone (by decide) (by decide +kernel) hargs
    exact ⟨e, he, hclass (exists_bracket_iff.1 ⟨_, hhead⟩)⟩
  · have hhead : splitHead .axiomParameter "(2)".toList = .ok ([], some ['2']) := rfl
    have hvalue : okAnd (fun _ => true) (constantValue ['2']) = true := by decide +kernel
    have hargs : FailsInExpressions "(2)".toList := by
      intro name args hmodule p hp e he
      obtain ⟨inner, hinner, rfl⟩ := splitHead_eq_ok_iff.2 hmodule
      obtain ⟨-, rfl⟩ := Prod.mk.inj (Except.ok.inj (hhead.symm.trans hinner))
      obtain rfl : p = ['2'] := List.mem_singleton.1 hp
      rw [he] at hvalue
      cases hvalue
    obtain ⟨e, he, -, hclass⟩ := hone (by decide) (by decide +kernel) hargs
    refine ⟨e, he, hclass fun hunclosed => ?_⟩
    obtain ⟨b, hb⟩ := exists_bracket_iff.2 hunclosed
    cases hhead.symm.trans hb

end GrowthGrammar
