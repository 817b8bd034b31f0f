import GrowthGrammar.Proofs.Description.RuleLines
import GrowthGrammar.Proofs.Description.Written
import Mathlib.Logic.Relation

/-!
# The layout of descriptions

A description is read line by line, so that nothing depends on what ends its lines, on the blanks
around them and on the lines that say nothing (`significantLines_eq`, `readText_saysNothing`).  In
front of the rules the case of a keyword does not count either (`readLine_keyword`).
Main statement: a text is read alike, or fails with the same error, after any changes of its layout
(`read_of_layoutChanges`).
-/

namespace GrowthGrammar.Description

open GrowthGrammar.Number GrowthGrammar.Text

variable {globals : Environment} {p : Progress}
  {before after line t w k k' keyword cs cs' : List Char}

/-! ## The lines of parts of a text -/

theorem significantLines_eq (cs : List Char) : significantLines cs =
    ((splitWhere isLineBreak cs).map trim).filter fun line => !isSkipped line := by
  -- A line without characters is skipped, so that `sameLines` says enough of the two lists.
  have hfilter (ls : List (List Char)) : (ls.map trim).filter (fun line => !isSkipped line) =
      ((ls.filter (· ≠ [])).map trim).filter fun line => !isSkipped line := by
    rw [List.filter_map, List.filter_map, List.filter_filter]
    congr 1
    refine List.filter_congr fun l _ => ?_
    cases l with
    | nil => rfl
    | cons c l => simp
  rw [significantLines, hfilter, (sameLines cs).filter_eq, ← hfilter]

theorem significantLines_append_cons {c : Char} (hc : isLineBreak c = true) (a b : List Char) :
    significantLines (a ++ c :: b) = significantLines a ++ significantLines b := by
  rw [significantLines_eq, splitWhere_append hc, List.map_append, List.filter_append,
    ← significantLines_eq, ← significantLines_eq]

theorem significantLines_endsLine (h : endsLine before = true) (after : List Char) :
    significantLines (before ++ after) = significantLines before ++ significantLines after := by
  rcases List.eq_nil_or_concat' before with rfl | ⟨b, c, rfl⟩
  · rfl
  · have hc : isLineBreak c = true := by simpa [endsLine] using h
    rw [List.append_assoc, List.singleton_append, significantLines_append_cons hc,
      significantLines_append_cons hc, List.append_assoc]
    rfl

theorem significantLines_beginsBehindLine (h : beginsBehindLine after = true)
    (before : List Char) :
    significantLines (before ++ after) = significantLines before ++ significantLines after := by
  cases after with
  | nil =>
    rw [List.append_nil]
    exact (List.append_nil _).symm
  | cons c a =>
    rw [significantLines_append_cons h, ← List.nil_append (c :: a),
      significantLines_append_cons h]
    rfl

theorem significantLines_line (h : hasNoBreak line = true) :
    significantLines line = [trim line].filter fun line => !isSkipped line := by
  rw [significantLines_eq, splitWhere_of_hasNoBreak h]
  rfl

theorem significantLines_ending (h : IsLineEnding t) : significantLines t = [] := by
  cases h with
  | @char c h => exact significantLines_append_cons h [] []
  | pair => rfl

theorem beginsBehindLine_append (h : IsLineEnding t) (cs : List Char) :
    beginsBehindLine (t ++ cs) = true := by
  cases h with
  | char h => exact h
  | pair => rfl

theorem endsLine_append (h : IsLineEnding t) (cs : List Char) : endsLine (cs ++ t) = true := by
  cases h with
  | char h => simpa [endsLine] using h
  | pair => simp [endsLine, isLineBreak_newline]

theorem significantLines_append_ending (h : IsLineEnding t) (before after : List Char) :
    significantLines (before ++ t ++ after) =
      significantLines before ++ significantLines after := by
  have ht : beginsBehindLine t = true := by
    rw [← List.append_nil t]
    exact beginsBehindLine_append h []
  rw [significantLines_endsLine (endsLine_append h before), significantLines_beginsBehindLine ht,
    significantLines_ending h, List.append_nil]

/-! ## Changes of the layout -/

/-- The characters are blanks that end no line. -/
def isMargin (cs : List Char) : Bool :=
  cs.all fun c => isBlank c && !isLineBreak c

/-- The keywords of a description. -/
def keywords : List (List Char) :=
  ["axiom:".toList, "count:".toList, "rules:".toList]

/-- The rules have not begun behind the text. -/
def InHead (before : List Char) : Prop :=
  ∀ l ∈ significantLines before, opensRules l = false

instance (before : List Char) : Decidable (InHead before) :=
  inferInstanceAs (Decidable (∀ l ∈ significantLines before, opensRules l = false))

/-- The line says nothing behind the text `before`.  Blanks at its ends do not count: it is blank, or
it begins with `#`, or it begins with no keyword and the rules have not begun. -/
inductive SaysNothing (before : List Char) : List Char → Prop
  | blank {line : List Char} (h : isMargin line = true) : SaysNothing before line
  | comment {l r : List Char} (hl : isMargin l = true) (hr : hasNoBreak r = true) :
      SaysNothing before (l ++ '#' :: r)
  | noKeyword {line : List Char} (hline : hasNoBreak line = true)
      (hkeyword : hasKeyword (trim line) = false) (hhead : InHead before) : SaysNothing before line

/-- The second text is the first one with another layout at one place: with one more line, which
says nothing, above a line, below a line or at the end; with another line ending; with other blanks
at an end of a line; or with a keyword of the head in other letters, small or capital. -/
inductive LayoutChange : List Char → List Char → Prop
  | lineAbove {before after line t : List Char} (hbefore : endsLine before = true)
      (hline : SaysNothing before line) (ht : IsLineEnding t) :
      LayoutChange (before ++ after) (before ++ (line ++ t) ++ after)
  | lineBelow {before after line t : List Char} (hafter : beginsBehindLine after = true)
      (hline : SaysNothing before line) (ht : IsLineEnding t) :
      LayoutChange (before ++ after) (before ++ (t ++ line) ++ after)
  | lastLine {before line : List Char} (hbefore : endsLine before = true)
      (hline : SaysNothing before line) : LayoutChange before (before ++ line)
  | ending {before after t t' : List Char} (ht : IsLineEnding t) (ht' : IsLineEnding t') :
      LayoutChange (before ++ t ++ after) (before ++ t' ++ after)
  | leading {before after w w' : List Char} (hbefore : endsLine before = true)
      (hw : isMargin w = true) (hw' : isMargin w' = true) :
      LayoutChange (before ++ w ++ after) (before ++ w' ++ after)
  | trailing {before after w w' : List Char} (hafter : beginsBehindLine after = true)
      (hw : isMargin w = true) (hw' : isMargin w' = true) :
      LayoutChange (before ++ w ++ after) (before ++ w' ++ after)
  | keyword {before after w k k' : List Char} (hbefore : endsLine before = true)
      (hhead : InHead before) (hw : isMargin w = true) (hk : k.map Char.toLower ∈ keywords)
      (hk' : k'.map Char.toLower = k.map Char.toLower) :
      LayoutChange (before ++ (w ++ k) ++ after) (before ++ (w ++ k') ++ after)

theorem isBlankText_of_isMargin (h : isMargin w = true) : isBlankText w = true := by
  rw [isBlankText_iff]
  intro c hc
  exact ((Bool.and_eq_true _ _).mp (List.all_eq_true.1 h c hc)).1

theorem hasNoBreak_of_isMargin (h : isMargin w = true) : hasNoBreak w = true := by
  rw [hasNoBreak_iff]
  intro c hc
  simpa using ((Bool.and_eq_true _ _).mp (List.all_eq_true.1 h c hc)).2

/-! ## Blanks around lines -/

theorem significantLines_leading (hw : isMargin w = true) (cs : List Char) :
    significantLines (w ++ cs) = significantLines cs := by
  obtain ⟨l, r, rfl, hl, hr⟩ := exists_firstLine cs
  have hline : hasNoBreak (w ++ l) = true := by
    rw [hasNoBreak_append, hasNoBreak_of_isMargin hw, hl]
    rfl
  rw [← List.append_assoc, significantLines_beginsBehindLine hr,
    significantLines_beginsBehindLine hr, significantLines_line hline, significantLines_line hl,
    trim_blank_append (isBlankText_of_isMargin hw)]

theorem significantLines_trailing (hw : isMargin w = true) (cs : List Char) :
    significantLines (cs ++ w) = significantLines cs := by
  obtain ⟨r, l, rfl, hl, hr⟩ := exists_lastLine cs
  have hline : hasNoBreak (l ++ w) = true := by
    rw [hasNoBreak_append, hasNoBreak_of_isMargin hw, hl]
    rfl
  rw [List.append_assoc, significantLines_endsLine hr, significantLines_endsLine hr,
    significantLines_line hline, significantLines_line hl,
    trim_append_blank (isBlankText_of_isMargin hw)]

/-! ## Lines in front of the rules -/

/-- What has been read by what is behind each keyword in a line in front of the rules. -/
def readBehind (globals : Environment) (p : Progress) (word count rules : Option (List Char)) :
    Except Error Progress :=
  match word, count, rules with
  | some r, _, _ => readAxiom r >>= fun symbols => .ok { p with symbols }
  | none, some r, _ => .ok { p with count := readInteger (trim r) }
  | none, none, some r => readRuleLine globals { p with inRules := true } (trim r)
  | none, none, none => .ok p

theorem readLine_of_not_inRules (hp : p.inRules = false) (hskip : isSkipped (trim line) = false) :
    readLine globals p line = readBehind globals p (afterKeyword "axiom:".toList (trim line))
      (afterKeyword "count:".toList (trim line)) (afterKeyword "rules:".toList (trim line)) := by
  rw [readLine, hskip, if_neg Bool.false_ne_true, readKeyword]
  cases afterKeyword "axiom:".toList (trim line) with
  | some r =>
    rw [readBehind]
    dsimp only
    rw [bind_assoc]
    exact bind_congr fun symbols => readRuleLine_of_not_inRules (p := { p with symbols }) hp _
  | none =>
    cases afterKeyword "count:".toList (trim line) with
    | some r =>
      exact readRuleLine_of_not_inRules (p := { p with count := readInteger (trim r) }) hp _
    | none =>
      cases afterKeyword "rules:".toList (trim line) with
      | some r => rfl
      | none => exact readRuleLine_of_not_inRules hp _

theorem readLine_of_saysNothing (hline : SaysNothing before line)
    (hp : InHead before → p.inRules = false) : readLine globals p line = .ok p := by
  cases hskip : isSkipped (trim line) with
  | true =>
    rw [readLine, hskip]
    rfl
  | false =>
    cases hline with
    | blank h =>
      rw [trim_eq_nil_iff.2 (isBlankText_of_isMargin h)] at hskip
      cases hskip
    | comment hl hr =>
      rw [trim_blank_append (isBlankText_of_isMargin hl), ← List.nil_append ('#' :: _),
        trim_append_cons (c := '#') rfl] at hskip
      cases hskip
    | noKeyword hline hkeyword hhead =>
      simp only [hasKeyword, opensRules, Bool.or_eq_false_iff, Option.isSome_eq_false_iff,
        Option.isNone_iff_eq_none] at hkeyword
      obtain ⟨⟨hword, hcount⟩, hrules⟩ := hkeyword
      rw [readLine_of_not_inRules (hp hhead) hskip, hword, hcount, hrules]
      rfl

/-! ## Keywords -/

theorem toLower_of_isBlank {c : Char} (h : isBlank c = true) : c.toLower = c := by
  unfold Char.toLower
  split
  · rename_i hupper
    have hl : 65 ≤ c.toNat := UInt32.le_iff_toNat_le.1 hupper.1
    have hu : c.toNat ≤ 90 := UInt32.le_iff_toNat_le.1 hupper.2
    simp [isBlank] at h
    omega
  · rfl

theorem isBlank_of_isLineBreak {c : Char} (h : isLineBreak c = true) : isBlank c = true := by
  simp only [isLineBreak, isBlank, Bool.or_eq_true, Bool.and_eq_true, decide_eq_true_eq,
    beq_iff_eq] at h ⊢
  omega

theorem not_isBlank_of_keyword (hk : k.map Char.toLower ∈ keywords) :
    ∀ c ∈ k, isBlank c = false := by
  intro c hc
  refine Bool.eq_false_iff.2 fun hblank => ?_
  have hkeywords : keywords.flatten.all (!isBlank ·) = true := by decide
  have hmem := List.mem_map_of_mem (f := Char.toLower) hc
  rw [toLower_of_isBlank hblank] at hmem
  have hmark := List.all_eq_true.1 hkeywords c (List.mem_flatten_of_mem hk hmem)
  rw [hblank] at hmark
  cases hmark

theorem hasNoBreak_of_keyword (hk : k.map Char.toLower ∈ keywords) : hasNoBreak k = true := by
  refine hasNoBreak_iff.2 fun c hc => Bool.eq_false_iff.2 fun hbreak => ?_
  have hblank := not_isBlank_of_keyword hk c hc
  rw [isBlank_of_isLineBreak hbreak] at hblank
  cases hblank

theorem length_of_mem_keywords (h : keyword ∈ keywords) : keyword.length = 6 := by
  revert keyword
  decide

theorem length_of_keyword (hk : k.map Char.toLower ∈ keywords) : k.length = 6 := by
  rw [← length_of_mem_keywords hk, List.length_map]

theorem trim_keyword (hk : k.map Char.toLower ∈ keywords) (r : List Char) :
    trim (k ++ r) = k ++ trimEnd r := by
  have hblank := not_isBlank_of_keyword hk
  rcases List.eq_nil_or_concat' k with rfl | ⟨s, d, rfl⟩
  · cases length_of_keyword hk
  · have hs : trimStart s = s := by
      cases s with
      | nil => rfl
      | cons c s => exact trimStart_of_head (hblank c List.mem_cons_self)
    rw [List.append_assoc, List.singleton_append, trim_append_cons (hblank d (by simp)), hs,
      List.append_assoc, List.singleton_append]

theorem isSkipped_keyword (hk : k.map Char.toLower ∈ keywords) (r : List Char) :
    isSkipped (k ++ r) = false := by
  have hkeywords : ∀ keyword ∈ keywords, '#' ∉ keyword := by decide
  have hhash : '#' ∉ k := not_mem_of_map_toLower (by decide) rfl (hkeywords _ hk)
  cases k with
  | nil => cases length_of_keyword hk
  | cons c k =>
    refine beq_eq_false_iff_ne.2 ?_
    rintro rfl
    exact hhash List.mem_cons_self

theorem afterKeyword_append (h : keyword ∈ keywords) (hk : k.map Char.toLower ∈ keywords)
    (r : List Char) :
    afterKeyword keyword (k ++ r) = if k.map Char.toLower = keyword then some r else none := by
  have hlength : keyword.length = k.length := by
    rw [length_of_mem_keywords h, length_of_keyword hk]
  rw [afterKeyword, hlength, List.take_left, List.drop_left]

/-- In front of the rules the case of a keyword does not count. -/
theorem readLine_keyword (hp : p.inRules = false) (hk : k.map Char.toLower ∈ keywords)
    (hk' : k'.map Char.toLower = k.map Char.toLower) (r : List Char) :
    readLine globals p (k' ++ r) = readLine globals p (k ++ r) := by
  have hmem : k'.map Char.toLower ∈ keywords := hk' ▸ hk
  have hbehind {keyword : List Char} (h : keyword ∈ keywords) :
      afterKeyword keyword (k' ++ trimEnd r) = afterKeyword keyword (k ++ trimEnd r) := by
    rw [afterKeyword_append h hmem, afterKeyword_append h hk, hk']
  have hskip : isSkipped (trim (k ++ r)) = false := by rw [trim_keyword hk, isSkipped_keyword hk]
  have hskip' : isSkipped (trim (k' ++ r)) = false := by
    rw [trim_keyword hmem, isSkipped_keyword hmem]
  rw [readLine_of_not_inRules hp hskip, readLine_of_not_inRules hp hskip', trim_keyword hk,
    trim_keyword hmem, hbehind (by decide), hbehind (by decide), hbehind (by decide)]

/-! ## Texts -/

theorem foldlM_line (h : hasNoBreak line = true) :
    (significantLines line).foldlM (readLine globals) p = readLine globals p line := by
  have hline : significantLines line = ([line].map trim).filter fun line => !isSkipped line :=
    significantLines_line h
  rw [hline, foldlM_significantLines, List.foldlM_cons]
  exact bind_pure _

theorem hasNoBreak_of_saysNothing (h : SaysNothing before line) : hasNoBreak line = true := by
  cases h with
  | blank h => exact hasNoBreak_of_isMargin h
  | comment hl hr =>
    rw [hasNoBreak_append, hasNoBreak_of_isMargin hl]
    exact hr
  | noKeyword hline _ _ => exact hline

theorem inRules_of_inHead (h : InHead before)
    (hp : (significantLines before).foldlM (readLine globals) .start = .ok p) :
    p.inRules = false :=
  (rules_foldlM_of_not_opensRules (fun _ => trim_of_mem_significantLines)
    (fun _ => isSkipped_of_mem_significantLines) h rfl hp).1

/-- What has been read behind a text. -/
def readText (globals : Environment) (cs : List Char) : Except Error Progress :=
  (significantLines cs).foldlM (readLine globals) .start

theorem read_eq_readText (globals : Environment) (cs : List Char) :
    Description.read globals cs = readText globals cs >>= fun p => .ok p.toDescription := by
  rw [readText, significantLines, foldlM_significantLines]
  rfl

/-- Lines can be exchanged that are read alike behind what is read in front of them. -/
theorem readText_congr {ls ls' rest : List (List Char)}
    (hcs : significantLines cs = significantLines before ++ (ls ++ rest))
    (hcs' : significantLines cs' = significantLines before ++ (ls' ++ rest))
    (h : ∀ p, readText globals before = .ok p →
      ls'.foldlM (readLine globals) p = ls.foldlM (readLine globals) p) :
    readText globals cs' = readText globals cs := by
  rw [readText, readText, hcs, hcs', List.foldlM_append, List.foldlM_append]
  refine bind_congr_of_ok fun p hp => ?_
  rw [List.foldlM_append, List.foldlM_append, h p hp]

theorem readText_saysNothing (hline : SaysNothing before line) {rest : List (List Char)}
    (hcs : significantLines cs = significantLines before ++ rest)
    (hcs' : significantLines cs' = significantLines before ++ (significantLines line ++ rest)) :
    readText globals cs' = readText globals cs := by
  have hnone : significantLines cs = significantLines before ++ ([] ++ rest) := hcs
  refine readText_congr hnone hcs' fun p hp => ?_
  rw [foldlM_line (hasNoBreak_of_saysNothing hline)]
  exact readLine_of_saysNothing hline fun hhead => inRules_of_inHead hhead hp

theorem readText_of_layoutChange (h : LayoutChange cs cs') :
    readText globals cs' = readText globals cs := by
  cases h with
  | @lineAbove before after line t hbefore hline ht =>
    refine readText_saysNothing hline (significantLines_endsLine hbefore after) ?_
    rw [List.append_assoc, significantLines_endsLine hbefore, significantLines_append_ending ht]
  | @lineBelow before after line t hafter hline ht =>
    refine readText_saysNothing hline (significantLines_beginsBehindLine hafter before) ?_
    rw [significantLines_beginsBehindLine hafter, ← List.append_assoc,
      significantLines_append_ending ht, List.append_assoc]
  | lastLine hbefore hline =>
    refine readText_saysNothing hline (List.append_nil _).symm ?_
    rw [significantLines_endsLine hbefore, List.append_nil]
  | ending ht ht' =>
    rw [readText, readText, significantLines_append_ending ht, significantLines_append_ending ht']
  | leading hbefore hw hw' =>
    rw [readText, readText, List.append_assoc, List.append_assoc, significantLines_endsLine hbefore,
      significantLines_endsLine hbefore, significantLines_leading hw, significantLines_leading hw']
  | trailing hafter hw hw' =>
    rw [readText, readText, significantLines_beginsBehindLine hafter,
      significantLines_beginsBehindLine hafter, significantLines_trailing hw,
      significantLines_trailing hw']
  | @keyword before after w k k' hbefore hhead hw hk hk' =>
    -- The two texts differ in the line of the keyword, which ends within what is behind it.
    obtain ⟨l, r, rfl, hl, hr⟩ := exists_firstLine after
    have hcs (k : List Char) : significantLines (before ++ (w ++ k) ++ (l ++ r)) =
        significantLines before ++ (significantLines (k ++ l) ++ significantLines r) := by
      rw [List.append_assoc, significantLines_endsLine hbefore, List.append_assoc,
        significantLines_leading hw, ← List.append_assoc, significantLines_beginsBehindLine hr]
    have hline {k : List Char} (hk : k.map Char.toLower ∈ keywords) :
        hasNoBreak (k ++ l) = true := by
      rw [hasNoBreak_append, hasNoBreak_of_keyword hk, hl]
      rfl
    refine readText_congr (hcs k) (hcs k') fun p hp => ?_
    rw [foldlM_line (hline hk), foldlM_line (hline (hk' ▸ hk))]
    exact readLine_keyword (inRules_of_inHead hhead hp) hk hk' l

/-! ## Main statement -/

/-- A description is read alike, or fails alike, whatever has been changed in its layout. -/
theorem read_of_layoutChanges (globals : Environment)
    (h : Relation.ReflTransGen LayoutChange cs cs') :
    Description.read globals cs' = Description.read globals cs := by
  induction h with
  | refl => rfl
  | tail _ hchange ih =>
    rw [read_eq_readText, readText_of_layoutChange hchange, ← read_eq_readText, ih]

/-- A description, and the same below a comment, with a line that says nothing, a keyword in capital
letters, another line ending and a blank at its end. -/
theorem read_of_layoutChanges_mixed :
    Relation.ReflTransGen LayoutChange "Axiom: A\nRules:\nA --> B".toList
        "# start\r\nAxiom: A\nnote\nRULES:\rA --> B\t".toList ∧
      ∃ d, Description.read .empty "# start\r\nAxiom: A\nnote\nRULES:\rA --> B\t".toList = .ok d ∧
        d.rules.map Rule.name = ["A"] := by
  have hnote : LayoutChange "Axiom: A\nRules:\nA --> B".toList
      "Axiom: A\nnote\nRules:\nA --> B".toList :=
    @LayoutChange.lineBelow "Axiom: A".toList "\nRules:\nA --> B".toList "note".toList ['\n'] rfl
      (.noKeyword rfl rfl (by decide)) (.char rfl)
  have hkeyword : LayoutChange "Axiom: A\nnote\nRules:\nA --> B".toList
      "Axiom: A\nnote\nRULES:\nA --> B".toList :=
    @LayoutChange.keyword "Axiom: A\nnote\n".toList "\nA --> B".toList [] "Rules:".toList
      "RULES:".toList rfl (by decide) rfl (by decide) (by decide)
  have hending : LayoutChange "Axiom: A\nnote\nRULES:\nA --> B".toList
      "Axiom: A\nnote\nRULES:\rA --> B".toList :=
    @LayoutChange.ending "Axiom: A\nnote\nRULES:".toList "A --> B".toList ['\n'] ['\r'] (.char rfl)
      (.char rfl)
  have hblank : LayoutChange "Axiom: A\nnote\nRULES:\rA --> B".toList
      "Axiom: A\nnote\nRULES:\rA --> B\t".toList :=
    @LayoutChange.trailing "Axiom: A\nnote\nRULES:\rA --> B".toList [] [] ['\t'] rfl rfl rfl
  have hcomment : LayoutChange "Axiom: A\nnote\nRULES:\rA --> B\t".toList
      "# start\r\nAxiom: A\nnote\nRULES:\rA --> B\t".toList :=
    @LayoutChange.lineAbove [] _ _ _ rfl (@SaysNothing.comment _ [] " start".toList rfl rfl) .pair
  have hchanges := ((((Relation.ReflTransGen.single hnote).tail hkeyword).tail hending).tail
    hblank).tail hcomment
  have hread : okAnd (fun d => d.rules.map Rule.name == ["A"])
      (Description.read .empty "Axiom: A\nRules:\nA --> B".toList) = true := by decide +kernel
  obtain ⟨d, hd, hrules⟩ := okAnd_iff.1 hread
  refine ⟨hchanges, d, ?_, beq_iff_eq.1 hrules⟩
  rw [read_of_layoutChanges .empty hchanges, hd]

end GrowthGrammar.Description
