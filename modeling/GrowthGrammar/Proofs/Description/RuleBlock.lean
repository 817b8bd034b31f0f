import GrowthGrammar.Proofs.Description.Keywords
import Mathlib.Data.List.Induction

/-!
# The rule block of a description

`readBlockwise` reads the lines of a description up to the one that opens the rule block, and every
further line as a rule.  The reader of descriptions goes on looking for keywords within the block.
Main statement: it reads a description blockwise exactly if no line of the block opens the block
again and the last lines of the block with the other keywords say what was said before it
(`readBlockwise_eq_ok_iff`).
-/

namespace GrowthGrammar.Description

open GrowthGrammar.Number GrowthGrammar.Text

/-- The lines of a text that say something, without the blanks around them. -/
def significantLines (cs : List Char) : List (List Char) :=
  ((lines cs).map trim).filter fun line => !isSkipped line

/-- The line opens the rule block. -/
def opensRules (line : List Char) : Bool :=
  (afterKeyword "rules:".toList line).isSome

/-- The lines up to the first one that opens the rule block, and that line. -/
def headLines (ls : List (List Char)) : List (List Char) :=
  ls.takeWhile (fun line => !opensRules line) ++
    (ls.dropWhile fun line => !opensRules line).take 1

/-- The lines behind the first one that opens the rule block. -/
def blockLines (ls : List (List Char)) : List (List Char) :=
  (ls.dropWhile fun line => !opensRules line).drop 1

/-- The line is long enough for a rule. -/
def isRuleLine (line : List Char) : Bool :=
  leastRuleLine ≤ line.length

/-- The description in which every line of the rule block is a rule and nothing else. -/
def readBlockwise (globals : Environment) (cs : List Char) : Except Error Description := do
  let p ← (headLines (significantLines cs)).foldlM (readLine globals) Progress.start
  let rules ← ((blockLines (significantLines cs)).filter isRuleLine).mapM (Rule.read globals)
  return ⟨p.symbols, p.rules ++ rules, p.count⟩

/-- What is behind a keyword in the last line that begins with it. -/
def lastBehind (keyword : List Char) (ls : List (List Char)) : Option (List Char) :=
  (ls.filterMap (afterKeyword keyword)).getLast?

/-- The part of a line that is read as a rule. -/
def ruleText (line : List Char) : List Char :=
  match afterKeyword "rules:".toList line with
  | some r => trim r
  | none => line

/-! ## Lines -/

theorem foldlM_significantLines (globals : Environment) (ls : List (List Char)) (p : Progress) :
    ((ls.map trim).filter fun line => !isSkipped line).foldlM (readLine globals) p =
      ls.foldlM (readLine globals) p := by
  induction ls generalizing p with
  | nil => rfl
  | cons l r ih =>
    have htrim : readLine globals p (trim l) = readLine globals p l := by
      rw [readLine, readLine, trim_trim]
    rw [List.map_cons, List.foldlM_cons, ← htrim]
    cases hskip : isSkipped (trim l) with
    | true =>
      have hline : readLine globals p (trim l) = .ok p := by
        rw [readLine, trim_trim, hskip]
        rfl
      rw [List.filter_cons_of_neg (by rw [hskip]; decide), hline, ih]
      rfl
    | false =>
      rw [List.filter_cons_of_pos (by rw [hskip]; rfl), List.foldlM_cons]
      exact bind_congr fun q => ih q

theorem trim_of_mem_significantLines {cs l : List Char} (h : l ∈ significantLines cs) :
    trim l = l := by
  obtain ⟨raw, -, rfl⟩ := List.mem_map.1 (List.mem_filter.1 h).1
  exact trim_trim raw

theorem isSkipped_of_mem_significantLines {cs l : List Char} (h : l ∈ significantLines cs) :
    isSkipped l = false := by
  simpa using (List.mem_filter.1 h).2

theorem headLines_append_blockLines (ls : List (List Char)) :
    headLines ls ++ blockLines ls = ls := by
  rw [headLines, blockLines, List.append_assoc, List.take_append_drop,
    List.takeWhile_append_dropWhile]

/-! ## One line -/

/-- What a line says by its keyword, if it has one. -/
theorem readKeyword_eq_ok {p q : Progress} {line rest : List Char}
    (h : readKeyword p line = .ok (q, rest)) :
    (afterKeyword "axiom:".toList line).elim (.ok p.symbols) readAxiom = .ok q.symbols ∧
      q.count = (afterKeyword "count:".toList line).elim p.count (fun r => readInteger (trim r)) ∧
      q.rules = p.rules ∧ q.inRules = (p.inRules || opensRules line) ∧ rest = ruleText line := by
  unfold readKeyword at h
  unfold opensRules ruleText
  cases hword : afterKeyword "axiom:".toList line with
  | some r =>
    have hcount : afterKeyword "count:".toList line = none :=
      afterKeyword_unique (by decide) (by decide) hword
    have hrules : afterKeyword "rules:".toList line = none :=
      afterKeyword_unique (by decide) (by decide) hword
    rw [hword] at h
    obtain ⟨symbols, hsymbols, h⟩ := bind_eq_ok.1 h
    obtain ⟨rfl, rfl⟩ := Prod.mk.inj (Except.ok.inj h)
    rw [hcount, hrules]
    exact ⟨hsymbols, rfl, rfl, (Bool.or_false _).symm, rfl⟩
  | none =>
    rw [hword] at h
    cases hcount : afterKeyword "count:".toList line with
    | some r =>
      have hrules : afterKeyword "rules:".toList line = none :=
      afterKeyword_unique (by decide) (by decide) hcount
      rw [hcount] at h
      obtain ⟨rfl, rfl⟩ := Prod.mk.inj (Except.ok.inj h)
      rw [hrules]
      exact ⟨rfl, rfl, rfl, (Bool.or_false _).symm, rfl⟩
    | none =>
      rw [hcount] at h
      cases hrules : afterKeyword "rules:".toList line with
      | some r =>
        rw [hrules] at h
        obtain ⟨rfl, rfl⟩ := Prod.mk.inj (Except.ok.inj h)
        exact ⟨rfl, rfl, rfl, (Bool.or_true _).symm, rfl⟩
      | none =>
        rw [hrules] at h
        obtain ⟨rfl, rfl⟩ := Prod.mk.inj (Except.ok.inj h)
        exact ⟨rfl, rfl, rfl, (Bool.or_false _).symm, rfl⟩

theorem readRuleLine_eq_ok {globals : Environment} {p q : Progress} {line : List Char}
    (h : readRuleLine globals p line = .ok q) :
    q.symbols = p.symbols ∧ q.count = p.count ∧ q.inRules = p.inRules ∧
      (p.inRules = true → ∃ rules,
        ([line].filter isRuleLine).mapM (Rule.read globals) = .ok rules ∧
          q.rules = p.rules ++ rules) := by
  unfold readRuleLine at h
  split_ifs at h with hline
  · obtain ⟨r, hr, h⟩ := bind_eq_ok.1 h
    obtain rfl := Except.ok.inj h
    refine ⟨rfl, rfl, rfl, fun _ => ⟨[r], ?_, rfl⟩⟩
    have hlong : isRuleLine line = true := ((Bool.and_eq_true _ _).mp hline).2
    rw [List.filter_cons_of_pos hlong, List.filter_nil, List.mapM_cons, hr]
    rfl
  · obtain rfl := Except.ok.inj h
    refine ⟨rfl, rfl, rfl, fun hp => ⟨[], ?_, (List.append_nil _).symm⟩⟩
    have hshort : ¬isRuleLine line = true := fun hlong => hline (by rw [hp]; exact hlong)
    rw [List.filter_cons_of_neg hshort]
    rfl

/-- What a line says, and what it adds to the rules once they have begun. -/
theorem readLine_eq_ok {globals : Environment} {p q : Progress} {line : List Char}
    (htrim : trim line = line) (hskip : isSkipped line = false)
    (h : readLine globals p line = .ok q) :
    (afterKeyword "axiom:".toList line).elim (.ok p.symbols) readAxiom = .ok q.symbols ∧
      q.count = (afterKeyword "count:".toList line).elim p.count (fun r => readInteger (trim r)) ∧
      q.inRules = (p.inRules || opensRules line) ∧
      (p.inRules = true → ∃ rules,
        ([ruleText line].filter isRuleLine).mapM (Rule.read globals) = .ok rules ∧
          q.rules = p.rules ++ rules) := by
  rw [readLine, htrim, hskip] at h
  obtain ⟨⟨p', rest⟩, hkeyword, h⟩ := bind_eq_ok.1 h
  obtain ⟨hsymbols, hcount, hrules, hin, rfl⟩ := readKeyword_eq_ok hkeyword
  obtain ⟨hsymbols', hcount', hin', hrules'⟩ := readRuleLine_eq_ok h
  refine ⟨hsymbols'.symm ▸ hsymbols, hcount'.trans hcount, hin'.trans hin, fun hp => ?_⟩
  rw [← hrules]
  exact hrules' (by rw [hin, hp, Bool.true_or])

/-! ## The lines of the block -/

theorem opensRules_of_dropWhile {ls r : List (List Char)} {l : List Char}
    (h : ls.dropWhile (fun line => !opensRules line) = l :: r) : opensRules l = true := by
  have hhead := List.head_dropWhile_not (fun line => !opensRules line) (l := ls) (by simp [h])
  simpa [h] using hhead

/-- Behind the head of a description its rules have begun, if anything follows. -/
theorem inRules_of_headLines {globals : Environment} {ls : List (List Char)} {p q : Progress}
    (htrim : ∀ l ∈ ls, trim l = l) (hskip : ∀ l ∈ ls, isSkipped l = false)
    (h : (headLines ls).foldlM (readLine globals) p = .ok q) (hne : blockLines ls ≠ []) :
    q.inRules = true := by
  unfold headLines at h
  unfold blockLines at hne
  cases hdrop : ls.dropWhile (fun line => !opensRules line) with
  | nil =>
    rw [hdrop] at hne
    exact absurd rfl hne
  | cons l r =>
    have hmem : l ∈ ls := (List.dropWhile_subset _) (hdrop ▸ List.mem_cons_self)
    have hopens : opensRules l = true := opensRules_of_dropWhile hdrop
    rw [hdrop, List.take_succ_cons, List.take_zero, List.foldlM_append] at h
    obtain ⟨p', -, h⟩ := bind_eq_ok.1 h
    rw [List.foldlM_cons] at h
    obtain ⟨q', hq', h⟩ := bind_eq_ok.1 h
    obtain rfl := Except.ok.inj h
    obtain ⟨-, -, hin, -⟩ := readLine_eq_ok (htrim l hmem) (hskip l hmem) hq'
    rw [hin, hopens, Bool.or_true]

/-- Rules that have begun go on. -/
theorem inRules_foldlM {globals : Environment} {ls : List (List Char)} {p q : Progress}
    (htrim : ∀ l ∈ ls, trim l = l) (hskip : ∀ l ∈ ls, isSkipped l = false) (hp : p.inRules = true)
    (h : ls.foldlM (readLine globals) p = .ok q) : q.inRules = true := by
  induction ls generalizing p with
  | nil =>
    obtain rfl := Except.ok.inj h
    exact hp
  | cons l ls ih =>
    rw [List.foldlM_cons] at h
    obtain ⟨p', hp', h⟩ := bind_eq_ok.1 h
    obtain ⟨-, -, hin, -⟩ :=
      readLine_eq_ok (htrim l List.mem_cons_self) (hskip l List.mem_cons_self) hp'
    exact ih (fun l' hl' => htrim l' (List.mem_cons_of_mem _ hl'))
      (fun l' hl' => hskip l' (List.mem_cons_of_mem _ hl')) (by rw [hin, hp, Bool.true_or]) h

theorem lastBehind_append_singleton (keyword : List Char) (ls : List (List Char))
    (line : List Char) :
    lastBehind keyword (ls ++ [line]) =
      (afterKeyword keyword line).elim (lastBehind keyword ls) some := by
  unfold lastBehind
  rw [List.filterMap_append]
  cases h : afterKeyword keyword line with
  | none => simp [h]
  | some r => simp [h]

/-- What the lines of the rule block say by keywords, and the rules that they add. -/
theorem foldlM_block {globals : Environment} {ls : List (List Char)} {p q : Progress}
    (htrim : ∀ l ∈ ls, trim l = l) (hskip : ∀ l ∈ ls, isSkipped l = false)
    (hp : ls ≠ [] → p.inRules = true) (h : ls.foldlM (readLine globals) p = .ok q) :
    (lastBehind "axiom:".toList ls).elim (.ok p.symbols) readAxiom = .ok q.symbols ∧
      q.count = (lastBehind "count:".toList ls).elim p.count (fun r => readInteger (trim r)) ∧
      ∃ rules, ((ls.map ruleText).filter isRuleLine).mapM (Rule.read globals) = .ok rules ∧
        q.rules = p.rules ++ rules := by
  induction ls using List.reverseRecOn generalizing q with
  | nil =>
    obtain rfl := Except.ok.inj h
    exact ⟨rfl, rfl, [], rfl, (List.append_nil _).symm⟩
  | append_singleton ls line ih =>
    have hp' : p.inRules = true := hp (by simp)
    rw [List.foldlM_append] at h
    obtain ⟨p', hp'', h⟩ := bind_eq_ok.1 h
    rw [List.foldlM_cons] at h
    obtain ⟨q', hq', h⟩ := bind_eq_ok.1 h
    obtain rfl := Except.ok.inj h
    have htrim' : ∀ l ∈ ls, trim l = l := fun l hl => htrim l (List.mem_append_left _ hl)
    have hskip' : ∀ l ∈ ls, isSkipped l = false := fun l hl => hskip l (List.mem_append_left _ hl)
    obtain ⟨hsymbols, hcount, rules, hrules, hsum⟩ := ih htrim' hskip' (fun _ => hp') hp''
    have hmem : line ∈ ls ++ [line] := List.mem_append_right _ List.mem_cons_self
    obtain ⟨hsymbols', hcount', -, hrules'⟩ :=
      readLine_eq_ok (htrim line hmem) (hskip line hmem) hq'
    obtain ⟨more, hmore, hsum'⟩ := hrules' (inRules_foldlM htrim' hskip' hp' hp'')
    refine ⟨?_, ?_, rules ++ more, ?_, ?_⟩
    · rw [lastBehind_append_singleton]
      cases hword : afterKeyword "axiom:".toList line with
      | none =>
        rw [hword] at hsymbols'
        rw [← Except.ok.inj hsymbols']
        exact hsymbols
      | some r =>
        rw [hword] at hsymbols'
        exact hsymbols'
    · rw [lastBehind_append_singleton, hcount']
      cases afterKeyword "count:".toList line with
      | none => exact hcount
      | some r => rfl
    · rw [List.map_append, List.filter_append, List.mapM_append, hrules, List.map_singleton, hmore]
      rfl
    · rw [hsum', hsum, List.append_assoc]

/-! ## Rules of whole lines -/

theorem isRuleLine_of_opensRules {line : List Char} (h : opensRules line = true) :
    isRuleLine line = true := by
  obtain ⟨r, hr⟩ := Option.isSome_iff_exists.1 h
  obtain ⟨head, rfl, hhead⟩ := afterKeyword_eq_some_iff.1 hr
  have hlength : head.length = 6 := by rw [← List.length_map (f := Char.toLower), hhead]; rfl
  rw [isRuleLine, decide_eq_true_eq, List.length_append, hlength]
  exact Nat.le_add_right_of_le (by decide)

theorem ruleText_of_not_opensRules {line : List Char} (h : opensRules line = false) :
    ruleText line = line := by
  unfold opensRules at h
  unfold ruleText
  cases hr : afterKeyword "rules:".toList line with
  | none => rfl
  | some r =>
    rw [hr] at h
    cases h

theorem length_ruleText_le (line : List Char) : (ruleText line).length ≤ line.length := by
  unfold ruleText
  split
  · rename_i r hr
    obtain ⟨head, rfl, -⟩ := afterKeyword_eq_some_iff.1 hr
    rw [List.length_append]
    exact (length_trim_le r).trans (Nat.le_add_left _ _)
  · exact le_rfl

theorem isRuleLine_of_ruleText {line : List Char} (h : isRuleLine (ruleText line) = true) :
    isRuleLine line = true := by
  rw [isRuleLine, decide_eq_true_eq] at h ⊢
  exact h.trans (length_ruleText_le line)

theorem length_filter_ruleText_le (ls : List (List Char)) :
    ((ls.map ruleText).filter isRuleLine).length ≤ (ls.filter isRuleLine).length := by
  rw [← List.countP_eq_length_filter, ← List.countP_eq_length_filter, List.countP_map]
  exact List.countP_mono_left fun line _ => isRuleLine_of_ruleText

/-- Where a block has the same rules with and without its keywords, none of its lines opens it. -/
theorem not_opensRules_of_mapM {globals : Environment} {ls : List (List Char)} {rules : List Rule}
    (h : ((ls.map ruleText).filter isRuleLine).mapM (Rule.read globals) = .ok rules)
    (h' : (ls.filter isRuleLine).mapM (Rule.read globals) = .ok rules) :
    ∀ line ∈ ls, opensRules line = false := by
  induction ls generalizing rules with
  | nil => exact fun line hline => absurd hline List.not_mem_nil
  | cons l r ih =>
    rw [List.map_cons] at h
    cases hlong : isRuleLine l with
    | false =>
      have hopens : opensRules l = false :=
        Bool.eq_false_iff.2 fun ho => by rw [isRuleLine_of_opensRules ho] at hlong; cases hlong
      rw [ruleText_of_not_opensRules hopens, List.filter_cons_of_neg (by rw [hlong]; decide)] at h
      rw [List.filter_cons_of_neg (by rw [hlong]; decide)] at h'
      exact List.forall_mem_cons.2 ⟨hopens, ih h h'⟩
    | true =>
      rw [List.filter_cons_of_pos hlong, mapM_eq_ok_iff] at h'
      cases h' with
      | cons hfirst hrest =>
        cases hlong' : isRuleLine (ruleText l) with
        | false =>
          -- the line gives a rule only as a whole, so there are too few rules
          rw [List.filter_cons_of_neg (by rw [hlong']; decide), mapM_eq_ok_iff] at h
          have hle := length_filter_ruleText_le r
          rw [h.length_eq, hrest.length_eq, List.length_cons] at hle
          omega
        | true =>
          rw [List.filter_cons_of_pos hlong', mapM_eq_ok_iff] at h
          cases h with
          | cons hfirst' hrest' =>
            have hopens : opensRules l = false := by
              refine Bool.eq_false_iff.2 fun ho => ?_
              obtain ⟨rest, hr⟩ := Option.isSome_iff_exists.1 ho
              have htext : ruleText l = trim rest := by rw [ruleText, hr]
              rw [htext] at hfirst'
              exact read_ne_of_afterKeyword "rules".toList (by decide) (by decide) hr hfirst
                hfirst' rfl
            exact List.forall_mem_cons.2
              ⟨hopens, ih (mapM_eq_ok_iff.2 hrest') (mapM_eq_ok_iff.2 hrest)⟩

/-! ## Main statement -/

/-- The lines of the rule block do not open it again, and by their other keywords they say in the
end what has been said before the block. -/
structure BlockIsInert (p : Progress) (block : List (List Char)) : Prop where
  opens : ∀ line ∈ block, opensRules line = false
  symbols : (lastBehind "axiom:".toList block).elim (.ok p.symbols) readAxiom = .ok p.symbols
  count : (lastBehind "count:".toList block).elim p.count (fun r => readInteger (trim r)) = p.count

/-- A description that is read has a head that is read, and it is read blockwise exactly if the
lines of its rule block are inert. -/
theorem readBlockwise_eq_ok_iff {globals : Environment} {cs : List Char} {d : Description}
    (h : Description.read globals cs = .ok d) :
    ∃ p, (headLines (significantLines cs)).foldlM (readLine globals) Progress.start = .ok p ∧
      (readBlockwise globals cs = .ok d ↔ BlockIsInert p (blockLines (significantLines cs))) := by
  set ls := significantLines cs with hls
  have htrim : ∀ l ∈ ls, trim l = l := fun l => trim_of_mem_significantLines
  have hskip : ∀ l ∈ ls, isSkipped l = false := fun l => isSkipped_of_mem_significantLines
  have hblock : ∀ l ∈ blockLines ls, l ∈ ls := by
    intro l hl
    rw [← headLines_append_blockLines ls]
    exact List.mem_append_right _ hl
  obtain ⟨q, hq, h⟩ := bind_eq_ok.1 h
  obtain rfl := Except.ok.inj h
  rw [← foldlM_significantLines, ← significantLines, ← hls, ← headLines_append_blockLines ls,
    List.foldlM_append] at hq
  obtain ⟨p, hp, hq⟩ := bind_eq_ok.1 hq
  obtain ⟨hsymbols, hcount, rules, hrules, hsum⟩ :=
    foldlM_block (fun l hl => htrim l (hblock l hl)) (fun l hl => hskip l (hblock l hl))
      (inRules_of_headLines htrim hskip hp) hq
  refine ⟨p, hp, ?_⟩
  have hread : readBlockwise globals cs =
      ((blockLines ls).filter isRuleLine).mapM (Rule.read globals) >>= fun rules =>
        .ok ⟨p.symbols, p.rules ++ rules, p.count⟩ := by
    rw [readBlockwise, ← hls, hp]
    rfl
  rw [hread, bind_eq_ok]
  constructor
  · rintro ⟨rules', hrules', hd⟩
    have hd := Except.ok.inj hd
    have hsymbols' : p.symbols = q.symbols := congrArg (fun d => d.symbols) hd
    have hcount' : p.count = q.count := congrArg (fun d => d.count) hd
    have hsum' : p.rules ++ rules' = q.rules := congrArg (fun d => d.rules) hd
    obtain rfl : rules' = rules := List.append_cancel_left (hsum'.trans hsum)
    exact ⟨not_opensRules_of_mapM hrules hrules', by rw [hsymbols, hsymbols'],
      by rw [← hcount, hcount']⟩
  · rintro ⟨hopens, hsymbols', hcount'⟩
    have htext : (blockLines ls).map ruleText = blockLines ls := by
      conv_rhs => rw [← List.map_id (blockLines ls)]
      exact List.map_congr_left fun line hline => ruleText_of_not_opensRules (hopens line hline)
    rw [htext] at hrules
    rw [hsymbols'] at hsymbols
    rw [hcount'] at hcount
    refine ⟨rules, hrules, ?_⟩
    rw [Except.ok.inj hsymbols, ← hcount, ← hsum]

/-- A description with a rule for symbols that are named like the keyword of the count. -/
def ruleNamedCount : List Char :=
  "Axiom: A\nRules: A --> B\n# no count\nCount:x --> A; B\n".toList

theorem readBlockwise_eq_ok_iff_ruleNamedCount :
    ∃ d, Description.read .empty ruleNamedCount = .ok d ∧
      d.rules.map Rule.name = ["A", "Count"] ∧ readBlockwise .empty ruleNamedCount = .ok d := by
  have hread : okAnd (fun d => d.rules.map Rule.name == ["A", "Count"])
      (Description.read .empty ruleNamedCount) = true := by decide +kernel
  have hhead : okAnd (fun p => p.count == none)
      ((headLines (significantLines ruleNamedCount)).foldlM (readLine .empty) Progress.start) =
      true := by decide +kernel
  obtain ⟨d, hd, hrules⟩ := okAnd_iff.1 hread
  obtain ⟨p, hp, hiff⟩ := readBlockwise_eq_ok_iff hd
  rw [hp] at hhead
  have hword : lastBehind "axiom:".toList (blockLines (significantLines ruleNamedCount)) = none :=
    by decide +kernel
  have hcount : lastBehind "count:".toList (blockLines (significantLines ruleNamedCount)) =
      some "x --> A; B".toList := by decide +kernel
  have hinteger : readInteger (trim "x --> A; B".toList) = none := by decide +kernel
  refine ⟨d, hd, beq_iff_eq.1 hrules, hiff.2 ⟨by decide +kernel, by rw [hword]; rfl, ?_⟩⟩
  rw [hcount, Option.elim_some, hinteger, beq_iff_eq.1 hhead]

/-- A description with a rule for symbols that are named like the keyword of the axiom. -/
def ruleNamedAxiom : List Char :=
  "Axiom: A\nRules:\nAxiom:x --> B\n".toList

/-- The line of a rule replaces the axiom. -/
theorem read_ne_readBlockwise_ruleNamedAxiom :
    ∃ d d', Description.read .empty ruleNamedAxiom = .ok d ∧
      readBlockwise .empty ruleNamedAxiom = .ok d' ∧
      d.symbols.map Symbol.name = ["x --> B"] ∧ d'.symbols.map Symbol.name = ["A"] := by
  have hread : okAnd (fun d => d.symbols.map Symbol.name == ["x --> B"])
      (Description.read .empty ruleNamedAxiom) = true := by decide +kernel
  have hblock : okAnd (fun d => d.symbols.map Symbol.name == ["A"])
      (readBlockwise .empty ruleNamedAxiom) = true := by decide +kernel
  obtain ⟨d, hd, hnames⟩ := okAnd_iff.1 hread
  obtain ⟨d', hd', hnames'⟩ := okAnd_iff.1 hblock
  exact ⟨d, d', hd, hd', beq_iff_eq.1 hnames, beq_iff_eq.1 hnames'⟩

end GrowthGrammar.Description
