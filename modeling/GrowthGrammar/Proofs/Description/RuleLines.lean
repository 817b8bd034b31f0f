import GrowthGrammar.Proofs.Description.RuleBlock

/-!
# Lines that a rule block offers

A rule block offers every line that says something by itself: what follows the keyword that opens
the block, and each later line that is no comment and begins with no keyword (`offeredLines`).  A
line too short for the reader is a rule only if it is an arrow behind one character
(`exists_read_short_iff`), and then it deletes the symbols of that name.  Main statement: of the
lines offered that are rules, a description that is read holds all but those (`read_offeredLines`).
-/

namespace GrowthGrammar

namespace Description

open GrowthGrammar.Text

variable {globals : Environment} {cs : List Char} {ls : List (List Char)} {p q : Progress}

/-! ## Lines of the block -/

/-- The lines from the first one on that opens the rule block. -/
def linesFromRules (cs : List Char) : List (List Char) :=
  (significantLines cs).dropWhile fun line => !opensRules line

/-- What the lines of the rule block give to be read as rules. -/
def ruleTexts (cs : List Char) : List (List Char) :=
  (linesFromRules cs).map ruleText

/-- The line begins with a keyword. -/
def hasKeyword (line : List Char) : Bool :=
  (afterKeyword "axiom:".toList line).isSome || (afterKeyword "count:".toList line).isSome ||
    opensRules line

/-- The line says something, and not by a keyword. -/
def isOffered (line : List Char) : Bool :=
  !isSkipped line && !hasKeyword line

/-- What follows the keyword that opens the rule block, and the lines behind it, as far as they say
something and begin with no keyword. -/
def offeredLines (cs : List Char) : List (List Char) :=
  (((linesFromRules cs).take 1).map ruleText ++ (linesFromRules cs).drop 1).filter isOffered

/-- The line is an arrow behind a name of one character. -/
def IsBareDeletion (line : List Char) : Prop :=
  ∃ c, line = c :: arrow ∧ c ≠ '(' ∧ c ≠ ':'

theorem mem_of_mem_linesFromRules {line : List Char} (h : line ∈ linesFromRules cs) :
    line ∈ significantLines cs :=
  List.dropWhile_subset _ h

theorem trim_ruleText {line : List Char} (h : trim line = line) :
    trim (ruleText line) = ruleText line := by
  unfold ruleText
  split
  · rename_i r _
    exact trim_trim r
  · exact h

theorem ruleText_of_isOffered {line : List Char} (h : isOffered line = true) :
    ruleText line = line := by
  refine ruleText_of_not_opensRules (Bool.eq_false_iff.2 fun hopens => ?_)
  simp [isOffered, hasKeyword, hopens] at h

/-- Lines that are offered are texts of the block, in their order. -/
theorem offeredLines_sublist (cs : List Char) : (offeredLines cs).Sublist (ruleTexts cs) := by
  set later := (linesFromRules cs).drop 1
  have hkept : (later.filter isOffered).map ruleText = later.filter isOffered :=
    (List.map_congr_left fun line hline =>
      ruleText_of_isOffered (List.mem_filter.1 hline).2).trans (List.map_id _)
  rw [offeredLines, ruleTexts, List.filter_append, ← hkept]
  conv_rhs => rw [← List.take_append_drop 1 (linesFromRules cs), List.map_append]
  exact List.filter_sublist.append (List.filter_sublist.map ruleText)

theorem of_mem_offeredLines {line : List Char} (h : line ∈ offeredLines cs) :
    trim line = line ∧ isSkipped line = false := by
  have hoffered : isOffered line = true := (List.mem_filter.1 h).2
  refine ⟨?_, by simpa using ((Bool.and_eq_true _ _).mp hoffered).1⟩
  obtain ⟨raw, hraw, rfl⟩ := List.mem_map.1 ((offeredLines_sublist cs).subset h)
  exact trim_ruleText (trim_of_mem_significantLines (mem_of_mem_linesFromRules hraw))

/-! ## Rules of the block -/

/-- A line adds its text to the rules, if they have begun behind it and the text is long enough. -/
theorem rules_readLine {line : List Char} (htrim : trim line = line)
    (hskip : isSkipped line = false) (h : readLine globals p line = .ok q)
    (hin : q.inRules = true) :
    ∃ rules, ([ruleText line].filter isRuleLine).mapM (Rule.read globals) = .ok rules ∧
      q.rules = p.rules ++ rules := by
  rw [readLine, htrim, hskip] at h
  obtain ⟨⟨p', rest⟩, hkeyword, h⟩ := bind_eq_ok.1 h
  obtain ⟨-, -, hrules, -, rfl⟩ := readKeyword_eq_ok hkeyword
  obtain ⟨-, -, hin', hadds⟩ := readRuleLine_eq_ok h
  rw [← hrules]
  exact hadds (hin'.symm.trans hin)

/-- A line in front of the rules adds none. -/
theorem rules_readLine_of_not_opensRules {line : List Char} (htrim : trim line = line)
    (hskip : isSkipped line = false) (hopens : opensRules line = false) (hp : p.inRules = false)
    (h : readLine globals p line = .ok q) : q.inRules = false ∧ q.rules = p.rules := by
  rw [readLine, htrim, hskip] at h
  obtain ⟨⟨p', rest⟩, hkeyword, h⟩ := bind_eq_ok.1 h
  obtain ⟨-, -, hrules, hin, rfl⟩ := readKeyword_eq_ok hkeyword
  have hin : p'.inRules = false := by rw [hin, hp, hopens]; rfl
  simp only [readRuleLine, hin, Bool.false_and, Bool.false_eq_true, if_false] at h
  obtain rfl := Except.ok.inj h
  exact ⟨hin, hrules⟩

theorem rules_foldlM_of_not_opensRules (htrim : ∀ l ∈ ls, trim l = l)
    (hskip : ∀ l ∈ ls, isSkipped l = false) (hopens : ∀ l ∈ ls, opensRules l = false)
    (hp : p.inRules = false) (h : ls.foldlM (readLine globals) p = .ok q) :
    q.inRules = false ∧ q.rules = p.rules := by
  induction ls generalizing p with
  | nil =>
    obtain rfl := Except.ok.inj h
    exact ⟨hp, rfl⟩
  | cons l ls ih =>
    obtain ⟨htrim, htrims⟩ := List.forall_mem_cons.1 htrim
    obtain ⟨hskip, hskips⟩ := List.forall_mem_cons.1 hskip
    obtain ⟨hopens, hopenss⟩ := List.forall_mem_cons.1 hopens
    rw [List.foldlM_cons] at h
    obtain ⟨p', hp', h⟩ := bind_eq_ok.1 h
    obtain ⟨hin, hrules⟩ := rules_readLine_of_not_opensRules htrim hskip hopens hp hp'
    rw [← hrules]
    exact ih htrims hskips hopenss hin h

/-- From a line on that opens the rule block, the texts that are long enough are read as rules. -/
theorem rules_foldlM_of_opensRules {l : List Char} (htrim : ∀ l' ∈ l :: ls, trim l' = l')
    (hskip : ∀ l' ∈ l :: ls, isSkipped l' = false) (hopens : opensRules l = true)
    (h : (l :: ls).foldlM (readLine globals) p = .ok q) :
    ∃ rules, (((l :: ls).map ruleText).filter isRuleLine).mapM (Rule.read globals) = .ok rules ∧
      q.rules = p.rules ++ rules := by
  obtain ⟨htrim, htrims⟩ := List.forall_mem_cons.1 htrim
  obtain ⟨hskip, hskips⟩ := List.forall_mem_cons.1 hskip
  rw [List.foldlM_cons] at h
  obtain ⟨p', hp', h⟩ := bind_eq_ok.1 h
  have hin : p'.inRules = true := by
    obtain ⟨-, -, hin, -⟩ := readLine_eq_ok htrim hskip hp'
    rw [hin, hopens, Bool.or_true]
  obtain ⟨first, hfirst, hsum⟩ := rules_readLine htrim hskip hp' hin
  obtain ⟨-, -, rest, hrest, hsum'⟩ := foldlM_block htrims hskips (fun _ => hin) h
  refine ⟨first ++ rest, ?_, by rw [hsum', hsum, List.append_assoc]⟩
  rw [List.map_cons, ← List.singleton_append, List.filter_append, List.mapM_append, hfirst, hrest]
  rfl

/-- The rules of a description that is read are those of the texts of its rule block that are long
enough. -/
theorem rules_of_read {d : Description} (h : Description.read globals cs = .ok d) :
    ((ruleTexts cs).filter isRuleLine).mapM (Rule.read globals) = .ok d.rules := by
  have htrim : ∀ l ∈ significantLines cs, trim l = l := fun l => trim_of_mem_significantLines
  have hskip : ∀ l ∈ significantLines cs, isSkipped l = false :=
    fun l => isSkipped_of_mem_significantLines
  obtain ⟨q, hq, h⟩ := bind_eq_ok.1 h
  obtain rfl := Except.ok.inj h
  rw [← foldlM_significantLines, ← significantLines,
    ← List.takeWhile_append_dropWhile (p := fun line => !opensRules line) (l := significantLines cs),
    List.foldlM_append, ← linesFromRules] at hq
  obtain ⟨p, hp, hq⟩ := bind_eq_ok.1 hq
  have hbefore : ∀ l ∈ (significantLines cs).takeWhile (fun line => !opensRules line),
      l ∈ significantLines cs ∧ opensRules l = false := fun l hl =>
    ⟨List.takeWhile_subset _ hl, by simpa using List.mem_takeWhile_imp hl⟩
  obtain ⟨-, hnone⟩ := rules_foldlM_of_not_opensRules (fun l hl => htrim l (hbefore l hl).1)
    (fun l hl => hskip l (hbefore l hl).1) (fun l hl => (hbefore l hl).2) rfl hp
  have hmem : ∀ l ∈ linesFromRules cs, l ∈ significantLines cs :=
    fun l => mem_of_mem_linesFromRules
  rw [ruleTexts]
  cases hlines : linesFromRules cs with
  | nil =>
    rw [hlines] at hq
    obtain rfl := Except.ok.inj hq
    rw [hnone]
    rfl
  | cons l r =>
    rw [hlines] at hq hmem
    obtain ⟨rules, hrules, hsum⟩ := rules_foldlM_of_opensRules
      (fun l' hl' => htrim l' (hmem l' hl')) (fun l' hl' => hskip l' (hmem l' hl'))
      (opensRules_of_dropWhile hlines) hq
    rw [hrules, hsum, hnone]
    rfl

/-! ## Short rules -/

/-- An arrow behind a name of one character is the rule that deletes the symbols of that name. -/
theorem read_bareDeletion (globals : Environment) {c : Char} (hblank : isBlank c = false)
    (hbracket : c ≠ '(') (hcolon : c ≠ ':') :
    Rule.read globals (c :: arrow) = .ok ⟨String.ofList [c], [], none, [], globals⟩ := by
  have hsides : splitAtArrow (c :: arrow) = [[c], []] :=
    splitAtArrow_cons_of_ne fun _ s => by simp [arrow]
  have hnotBlank : ∀ d ∈ [c], isBlank d = false := by simpa using hblank
  have hcut : cutAt ':' [c] = ([c], none) := cutAt_of_not_mem (by simpa using hcolon.symm)
  have hhead : splitHead .ruleParameter [c] = .ok ([c], none) := by
    rw [splitHead_of_no_bracket _ (by simpa using hbracket.symm), trim_of_no_blank hnotBlank]
  have hname : Rule.checkName (c :: arrow) [c] = .ok (String.ofList [c]) := by
    rw [Rule.checkName, words_of_no_blank (List.cons_ne_nil c []) hnotBlank]
    rfl
  simp only [Rule.read, Rule.splitSides, hsides, ok_bind, hcut, hhead, hname]
  rfl

/-- A rule has a name in front of its arrow, which holds no bracket that is not closed. -/
theorem isBareDeletion_of_read {line : List Char} {r : Rule} (h : Rule.read globals line = .ok r)
    (hshort : isRuleLine line = false) : IsBareDeletion line := by
  obtain ⟨left, right, hsides, hname, -⟩ := exists_left_of_read h
  have hline : line = left ++ arrow ++ right := by
    rw [← intercalate_splitAtArrow line, hsides]
    simp [List.intercalate, List.intersperse]
  have hlength : left.length + right.length ≤ 1 := by
    have hlt : line.length < leastRuleLine := by simpa [isRuleLine] using hshort
    rw [hline, List.length_append, List.length_append] at hlt
    simp only [leastRuleLine, arrow, List.length_cons, List.length_nil] at hlt
    omega
  have hne : left ≠ [] := by
    rintro rfl
    cases hname
  have hpos := List.length_pos_iff.2 hne
  obtain ⟨c, rfl⟩ := List.length_eq_one_iff.1 (by omega : left.length = 1)
  obtain rfl : right = [] := List.eq_nil_of_length_eq_zero (by omega)
  refine ⟨c, by simpa using hline, ?_, ?_⟩
  · rintro rfl
    subst hline
    cases h
  · rintro rfl
    cases hname

/-- A line that is too short for the reader is a rule exactly if it is a bare deletion. -/
theorem exists_read_short_iff {line : List Char} (htrim : trim line = line)
    (hshort : isRuleLine line = false) :
    (∃ r, Rule.read globals line = .ok r) ↔ IsBareDeletion line := by
  refine ⟨fun ⟨r, hr⟩ => isBareDeletion_of_read hr hshort, ?_⟩
  rintro ⟨c, rfl, hbracket, hcolon⟩
  refine ⟨_, read_bareDeletion globals (Bool.eq_false_iff.2 fun hblank => ?_) hbracket hcolon⟩
  have hlength := congrArg List.length htrim
  have hle := length_trim_le arrow
  rw [← List.singleton_append, trim_blank_append (by simpa [isBlankText] using hblank),
    List.length_append, List.length_singleton] at hlength
  omega

theorem isRuleLine_of_isBareDeletion {line : List Char} (h : IsBareDeletion line) :
    isRuleLine line = false := by
  obtain ⟨c, rfl, -, -⟩ := h
  rfl

/-! ## Main statement -/

/-- The rules of a description that is read come from the texts of its rule block that are long
enough.  The lines that the block offers are among these texts, and of those that are rules all are
long enough but the bare deletions. -/
theorem read_offeredLines {d : Description} (h : Description.read globals cs = .ok d) :
    ((ruleTexts cs).filter isRuleLine).mapM (Rule.read globals) = .ok d.rules ∧
      (offeredLines cs).Sublist (ruleTexts cs) ∧
      ∀ line ∈ offeredLines cs, isRuleLine line = true ↔
        (∃ r, Rule.read globals line = .ok r) ∧ ¬IsBareDeletion line := by
  have hrules := rules_of_read h
  refine ⟨hrules, offeredLines_sublist cs, fun line hline => ?_⟩
  cases hlong : isRuleLine line with
  | true =>
    have hmem : line ∈ (ruleTexts cs).filter isRuleLine :=
      List.mem_filter.2 ⟨(offeredLines_sublist cs).subset hline, hlong⟩
    refine iff_of_true rfl ⟨exists_ok_of_mapM hrules hmem, fun hbare => ?_⟩
    rw [isRuleLine_of_isBareDeletion hbare] at hlong
    cases hlong
  | false =>
    rw [exists_read_short_iff (of_mem_offeredLines hline).1 hlong]
    simp

/-- A description whose rule block offers four lines: a rule, a line too short for one, a bare
deletion, and a deletion with a blank in front of its arrow. -/
def deletions : List Char :=
  "Axiom: A\nRules: A --> B; C\n# noise\nxx\nB-->\nC -->\n".toList

theorem read_offeredLines_deletions :
    ∃ d, Description.read .empty deletions = .ok d ∧ d.rules.map Rule.name = ["A", "C"] ∧
      offeredLines deletions =
        ["A --> B; C".toList, "xx".toList, "B-->".toList, "C -->".toList] ∧
      (offeredLines deletions).Sublist (ruleTexts deletions) ∧
      (∃ r, Rule.read .empty "C -->".toList = .ok r) ∧ ¬IsBareDeletion "C -->".toList := by
  have hread : okAnd (fun d => d.rules.map Rule.name == ["A", "C"])
      (Description.read .empty deletions) = true := by decide +kernel
  have hoffered : offeredLines deletions =
      ["A --> B; C".toList, "xx".toList, "B-->".toList, "C -->".toList] := by decide +kernel
  obtain ⟨d, hd, hnames⟩ := okAnd_iff.1 hread
  obtain ⟨-, hsublist, hlines⟩ := read_offeredLines hd
  have hmem : "C -->".toList ∈ offeredLines deletions := by
    rw [hoffered]
    decide
  obtain ⟨haccepted, hbare⟩ := (hlines _ hmem).1 rfl
  exact ⟨d, hd, beq_iff_eq.1 hnames, hoffered, hsublist, haccepted, hbare⟩

/-- A description whose one rule is a bare deletion. -/
def bareDeletion : List Char :=
  "Axiom: A\nRules:\nA-->\n".toList

/-- The rule is offered and can be read, but the description holds no rule. -/
theorem read_bareDeletion_lost :
    ∃ d line r, Description.read .empty bareDeletion = .ok d ∧ line ∈ offeredLines bareDeletion ∧
      Rule.read .empty line = .ok r ∧ d.rules = [] := by
  have hread : okAnd (fun d => d.rules.isEmpty) (Description.read .empty bareDeletion) = true := by
    decide +kernel
  obtain ⟨d, hd, hrules⟩ := okAnd_iff.1 hread
  exact ⟨d, 'A' :: arrow, _, hd, by decide +kernel,
    read_bareDeletion .empty (by decide) (by decide) (by decide), List.isEmpty_iff.1 hrules⟩

end Description

end GrowthGrammar
