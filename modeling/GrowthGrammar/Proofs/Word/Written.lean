import GrowthGrammar.Proofs.Expression.Constant
import GrowthGrammar.Proofs.Word.Head

/-!
# Reading a written word

A symbol whose name is one that readers give (`IsSymbolName`) is read back from its text, with or
without blanks in front, as that name with the constants that the texts of its parameters are
(`readSymbol_chars`).  A word is read back symbol by symbol (`readAxiom_wordText`).
-/

namespace GrowthGrammar

open GrowthGrammar.Number GrowthGrammar.Text

/-- The name is one that axioms and rules give: not empty, without blanks at its ends, and without
the characters that end a name. -/
structure IsSymbolName (name : String) : Prop where
  ne_nil : name.toList ≠ []
  trim_eq : trim name.toList = name.toList
  semicolon : ';' ∉ name.toList
  bracket : '(' ∉ name.toList

/-- The text belongs into brackets as an argument: it is not empty, and it holds none of the
characters that structure a word. -/
structure IsArgument (cs : List Char) : Prop where
  ne_nil : cs ≠ []
  blank : ∀ c ∈ cs, isBlank c = false
  marks : ∀ c ∈ cs, c ≠ '(' ∧ c ≠ ')' ∧ c ≠ ',' ∧ c ≠ ';'

theorem isArgument_numberChars (x : Float) : IsArgument (numberChars x) where
  ne_nil := numberChars_ne_nil x
  blank := fun _ hc => of_mem_numberAlphabet (P := fun c => isBlank c = false) (by decide)
    (mem_numberAlphabet_of_mem_numberChars hc)
  marks := fun _ hc => of_mem_numberAlphabet
    (P := fun c => c ≠ '(' ∧ c ≠ ')' ∧ c ≠ ',' ∧ c ≠ ';') (by decide)
    (mem_numberAlphabet_of_mem_numberChars hc)

/-! ## Arguments -/

theorem cutArguments_plain {cs : List Char} (h : ∀ c ∈ cs, c ≠ '(' ∧ c ≠ ')' ∧ c ≠ ',' ∧ c ≠ ';') :
    cutArguments 0 cs = [cs] := by
  induction cs with
  | nil => rfl
  | cons c r ih =>
    obtain ⟨hopen, hclose, hcomma, -⟩ := h c List.mem_cons_self
    have hr := ih fun d hd => h d (List.mem_cons_of_mem _ hd)
    simp [cutArguments, hopen, hclose, hcomma, hr, consHead]

theorem cutArguments_append {cs : List Char}
    (h : ∀ c ∈ cs, c ≠ '(' ∧ c ≠ ')' ∧ c ≠ ',' ∧ c ≠ ';') (r : List Char) :
    cutArguments 0 (cs ++ ',' :: r) = cs :: cutArguments 0 r := by
  induction cs with
  | nil => simp [cutArguments]
  | cons c s ih =>
    obtain ⟨hopen, hclose, hcomma, -⟩ := h c List.mem_cons_self
    have hs := ih fun d hd => h d (List.mem_cons_of_mem _ hd)
    simp [cutArguments, hopen, hclose, hcomma, hs, consHead]

/-- Arguments between commas are cut at the commas. -/
theorem cutArguments_intercalate {ps : List (List Char)} (hne : ps ≠ [])
    (h : ∀ p ∈ ps, IsArgument p) : cutArguments 0 ([','].intercalate ps) = ps := by
  induction ps with
  | nil => exact absurd rfl hne
  | cons p qs ih =>
    have hp := (h p List.mem_cons_self).marks
    cases qs with
    | nil => rw [List.intercalate_singleton, cutArguments_plain hp]
    | cons q qs =>
      have hqs := ih (List.cons_ne_nil _ _) fun r hr => h r (List.mem_cons_of_mem _ hr)
      rw [List.intercalate_cons_cons, List.append_assoc, List.singleton_append,
        cutArguments_append hp, hqs]

/-- The text of arguments between commas holds no brackets and no semicolon. -/
theorem mem_intercalate_arguments {ps : List (List Char)} (h : ∀ p ∈ ps, IsArgument p) {c : Char}
    (hc : c ∈ [','].intercalate ps) : c ≠ '(' ∧ c ≠ ')' ∧ c ≠ ';' := by
  induction ps with
  | nil => cases hc
  | cons p qs ih =>
    have hp : c ∈ p → c ≠ '(' ∧ c ≠ ')' ∧ c ≠ ';' := fun hcp =>
      let ⟨hopen, hclose, _, hsemicolon⟩ := (h p List.mem_cons_self).marks c hcp
      ⟨hopen, hclose, hsemicolon⟩
    cases qs with
    | nil => exact hp (by simpa using hc)
    | cons q qs =>
      rw [List.intercalate_cons_cons, List.append_assoc, List.singleton_append] at hc
      rcases List.mem_append.1 hc with hc | hc
      · exact hp hc
      · rcases List.mem_cons.1 hc with rfl | hc
        · decide
        · exact ih (fun r hr => h r (List.mem_cons_of_mem _ hr)) hc

theorem isBlankText_intercalate {ps : List (List Char)} (hne : ps ≠ [])
    (h : ∀ p ∈ ps, IsArgument p) : isBlankText ([','].intercalate ps) = false := by
  obtain ⟨p, qs, rfl⟩ := List.exists_cons_of_ne_nil hne
  have hp := h p List.mem_cons_self
  obtain ⟨c, r, rfl⟩ := List.exists_cons_of_ne_nil hp.ne_nil
  have hc := hp.blank c List.mem_cons_self
  cases qs with
  | nil => simp [isBlankText, hc]
  | cons q qs => simp [isBlankText, List.intercalate_cons_cons, hc]

/-! ## Symbols -/

/-- A written symbol, with blanks in front, is parted into its name and its arguments. -/
theorem splitHead_writtenSymbol (kind : GrammarKind) {name : String} (hname : IsSymbolName name)
    {ps : List (List Char)} (h : ∀ p ∈ ps, IsArgument p) {blanks : List Char}
    (hblanks : isBlankText blanks = true) :
    ∃ inner, splitHead kind (blanks ++ writtenSymbol name ps) = .ok (name.toList, inner) ∧
      splitArguments inner = ps := by
  have hbracket : '(' ∉ blanks ++ name.toList := by
    intro hc
    rcases List.mem_append.1 hc with hc | hc
    · have := isBlankText_iff.1 hblanks _ hc
      revert this
      decide
    · exact hname.bracket hc
  have htrim : trim (blanks ++ name.toList) = name.toList := by
    rw [trim_blank_append hblanks, hname.trim_eq]
  cases ps with
  | nil =>
    refine ⟨none, ?_, rfl⟩
    rw [writtenSymbol, splitHead_of_no_bracket kind hbracket, htrim]
  | cons p qs =>
    refine ⟨some ([','].intercalate (p :: qs)), ?_, ?_⟩
    · rw [writtenSymbol, ← List.append_assoc, splitHead_brackets kind hbracket, htrim]
      · exact fun c hc =>
          let ⟨hopen, hclose, _⟩ := mem_intercalate_arguments h hc
          ⟨hopen, hclose⟩
      · rfl
      · exact fun hnil => absurd hnil (List.cons_ne_nil _ _)
    · rw [splitArguments, isBlankText_intercalate (List.cons_ne_nil _ _) h]
      exact cutArguments_intercalate (List.cons_ne_nil _ _) h

/-- The symbol with the parameters that are read from the texts of its parameters. -/
def Symbol.readBack (s : Symbol) : Except Error Symbol :=
  ((s.parameters.map numberChars).mapM readConstant).map (⟨s.name, ·⟩)

/-- A symbol is read back from its text, with blanks in front, by its parameters. -/
theorem readSymbol_chars {s : Symbol} (hname : IsSymbolName s.name) {blanks : List Char}
    (hblanks : isBlankText blanks = true) :
    readSymbol (blanks ++ s.chars) = s.readBack := by
  have hps : ∀ p ∈ s.parameters.map numberChars, IsArgument p :=
    List.forall_mem_map.2 fun x _ => isArgument_numberChars x
  obtain ⟨inner, hhead, harguments⟩ :=
    splitHead_writtenSymbol .axiomParameter hname hps hblanks
  have hne : s.name.toList.isEmpty = false := List.isEmpty_eq_false_iff.2 hname.ne_nil
  rw [readSymbol, Symbol.chars, hhead]
  simp only [bind, Except.bind, hne, Bool.false_eq_true, if_false, harguments,
    String.ofList_toList, Symbol.readBack]
  cases (s.parameters.map numberChars).mapM readConstant <;> rfl

theorem not_isBlankText_chars {s : Symbol} (hname : IsSymbolName s.name) (blanks : List Char) :
    isBlankText (blanks ++ s.chars) = false := by
  have hname' : isBlankText s.name.toList = false := by
    refine Bool.eq_false_iff.2 fun h => hname.ne_nil ?_
    rw [← hname.trim_eq, trim_eq_nil_iff.2 h]
  unfold Symbol.chars writtenSymbol
  rw [isBlankText_append]
  split
  · rw [hname', Bool.and_false]
  · rw [isBlankText_append, hname', Bool.false_and, Bool.and_false]

theorem semicolon_not_mem_chars {s : Symbol} (hname : IsSymbolName s.name) : ';' ∉ s.chars := by
  intro hc
  unfold Symbol.chars writtenSymbol at hc
  split at hc
  · exact hname.semicolon hc
  · rename_i hne
    rcases List.mem_append.1 hc with hc | hc
    · exact hname.semicolon hc
    · rcases List.mem_cons.1 hc with hc | hc
      · exact absurd hc (by decide)
      · rcases List.mem_append.1 hc with hc | hc
        · exact (mem_intercalate_arguments
            (List.forall_mem_map.2 fun x _ => isArgument_numberChars x) hc).2.2 rfl
        · exact absurd hc (by decide)

/-! ## Words -/

/-- The pieces of a written word, up to blanks in front of them, are the written symbols. -/
theorem readAxiom_chars {symbols : List Symbol} (h : ∀ s ∈ symbols, IsSymbolName s.name)
    {blanks : List Char} (hblanks : isBlankText blanks = true) (hsemicolon : ';' ∉ blanks) :
    readAxiom (blanks ++ wordChars symbols) = symbols.mapM Symbol.readBack := by
  induction symbols generalizing blanks with
  | nil =>
    have hpiece : splitAt ';' (blanks ++ wordChars []) = [blanks] := by
      rw [wordChars, List.map_nil, joinedSymbols, List.intercalate_nil, List.append_nil,
        splitAt_of_not_mem hsemicolon]
    simp [readAxiom, hpiece, hblanks]
  | cons s r ih =>
    have hs := h s List.mem_cons_self
    have hpiece : ';' ∉ blanks ++ s.chars := by
      rw [List.mem_append, not_or]
      exact ⟨hsemicolon, semicolon_not_mem_chars hs⟩
    cases r with
    | nil =>
      have hword : blanks ++ wordChars [s] = blanks ++ s.chars := by
        rw [wordChars, List.map_singleton, joinedSymbols, List.intercalate_singleton]
      simp [readAxiom, hword, splitAt_of_not_mem hpiece, not_isBlankText_chars hs,
        readSymbol_chars hs hblanks]
    | cons t r =>
      have hword : blanks ++ wordChars (s :: t :: r) =
          (blanks ++ s.chars) ++ ';' :: ([' '] ++ wordChars (t :: r)) := by
        simp [wordChars, joinedSymbols, List.intercalate_cons_cons]
      have hrest : readAxiom ([' '] ++ wordChars (t :: r)) = (t :: r).mapM Symbol.readBack :=
        ih (fun u hu => h u (List.mem_cons_of_mem _ hu)) rfl (by decide)
      have hfilter (ps : List (List Char)) :
          ((blanks ++ s.chars) :: ps).filter (fun piece => !isBlankText piece) =
            (blanks ++ s.chars) :: ps.filter fun piece => !isBlankText piece :=
        List.filter_cons_of_pos (by rw [not_isBlankText_chars hs]; rfl)
      rw [readAxiom] at hrest ⊢
      rw [hword, splitAt_append hpiece, hfilter, List.mapM_cons, hrest, readSymbol_chars hs hblanks]
      conv_rhs => rw [List.mapM_cons]

/-- A word is read back from its text symbol by symbol. -/
theorem readAxiom_wordText {symbols : List Symbol} (h : ∀ s ∈ symbols, IsSymbolName s.name) :
    readAxiom (wordText symbols).toList = symbols.mapM Symbol.readBack := by
  rw [wordText, String.toList_ofList]
  have hnil : isBlankText [] = true := rfl
  exact readAxiom_chars h hnil List.not_mem_nil

end GrowthGrammar
