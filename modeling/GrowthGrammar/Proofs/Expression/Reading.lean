import GrowthGrammar.Proofs.Expression.Parse
import GrowthGrammar.Proofs.Text.Lines
import GrowthGrammar.Quantity

/-!
# Reading an expression, layer by layer

A text in which nothing is respelled is read from its phrase (`read_of_ofText?`), its phrase is that
of its tokens (`ofText?_of_parses`), and these are scanned one by one (`ScansTo`).
-/

namespace GrowthGrammar.Expression

open GrowthGrammar.Text

/-! ## Scanning -/

/-- The characters that separate tokens or go on in the next line. -/
def separators : List Char :=
  [' ', '\t', '\x0c', '#', '\n', '\\']

/-- A word or number ends in front of the character. -/
def Token.endsWord (c : Char) : Bool :=
  !isWordChar c && c != '.' && !Quotation.isQuote c

theorem Token.endsWord_iff {c : Char} : endsWord c = true ↔
    isWordChar c = false ∧ c ≠ '.' ∧ Quotation.isQuote c = false := by
  simp [endsWord, and_assoc]

theorem firstLine_cons {c : Char} (h : c ∉ separators) (r : List Char) :
    Token.firstLine false 0 0 (c :: r) = some (0, c :: r) := by
  simp only [separators, List.mem_cons, List.not_mem_nil, or_false, not_or] at h
  obtain ⟨h1, h2, h3, h4, h5, h6⟩ := h
  unfold Token.firstLine
  simp [h1, h2, h3, h4, h5, h6]

theorem scanLine_cons {c : Char} (h : c ∉ separators) {r s : List Char} {t : Token} {d d' : ℕ}
    (hnext : Token.next (c :: r) = some (t, s)) (ht : t.depthAfter d = some d') (fuel : ℕ) :
    Token.scanLine (fuel + 1) d (c :: r) = (Token.scanLine fuel d' s).map (t :: ·) := by
  simp only [separators, List.mem_cons, List.not_mem_nil, or_false, not_or] at h
  obtain ⟨h1, h2, h3, h4, h5, h6⟩ := h
  conv_lhs => unfold Token.scanLine
  simp [Token.isGap, h1, h2, h3, h4, h5, h6, hnext, ht]

theorem scanLine_newline (fuel : ℕ) : Token.scanLine (fuel + 1) 0 ['\n'] = some [] := by
  unfold Token.scanLine
  rfl

/-- A text that begins with a token is scanned line by line from there. -/
theorem scan_cons {c : Char} {r : List Char} (hsep : c ∉ separators) (hreturn : '\r' ∉ c :: r) :
    Token.scan (c :: r) = Token.scanLine (r.length + 3) 0 (c :: (r ++ ['\n'])) := by
  rw [Token.scan, unifyNewlines_of_no_return hreturn, List.cons_append, firstLine_cons hsep]
  simp only [List.length_cons, List.length_append, List.length_nil, Nat.zero_add]

/-- The text is scanned to these tokens within so many brackets, if there is fuel for it. -/
def ScansTo (d : ℕ) (cs : List Char) (ts : List Token) : Prop :=
  ∀ fuel, cs.length < fuel → Token.scanLine fuel d cs = some ts

section ScansTo

variable {d d' : ℕ} {c : Char} {w r : List Char} {t : Token} {ts : List Token}

theorem scansTo_newline : ScansTo 0 ['\n'] [] := by
  intro fuel hfuel
  obtain ⟨n, rfl⟩ := Nat.exists_eq_succ_of_ne_zero (Nat.ne_zero_of_lt hfuel)
  exact scanLine_newline n

theorem scansTo_gap : ScansTo d (' ' :: r) ts ↔ ScansTo d r ts := by
  constructor
  · intro h fuel hfuel
    exact h (fuel + 1) (Nat.succ_lt_succ hfuel)
  · intro h fuel hfuel
    obtain ⟨n, rfl⟩ := Nat.exists_eq_succ_of_ne_zero (Nat.ne_zero_of_lt hfuel)
    exact h n (Nat.lt_of_succ_lt_succ hfuel)

theorem ScansTo.token (hsep : c ∉ separators) (hnext : Token.next (c :: (w ++ r)) = some (t, r))
    (ht : t.depthAfter d = some d') (h : ScansTo d' r ts) : ScansTo d (c :: (w ++ r)) (t :: ts) := by
  intro fuel hfuel
  obtain ⟨n, rfl⟩ := Nat.exists_eq_succ_of_ne_zero (Nat.ne_zero_of_lt hfuel)
  have hr : r.length < n := by
    rw [List.length_cons, List.length_append] at hfuel
    omega
  rw [scanLine_cons hsep hnext ht, h n hr]
  rfl

theorem scan_of_scansTo (hsep : c ∉ separators) (hreturn : '\r' ∉ c :: r)
    (h : ScansTo 0 (c :: r ++ ['\n']) ts) : Token.scan (c :: r) = some ts := by
  rw [scan_cons hsep hreturn]
  exact h _ (by simp)

end ScansTo

/-! ### Lengths -/

/-- Every token takes a character. -/
theorem length_lt_of_scanLine {fuel d : ℕ} {cs : List Char} {ts : List Token}
    (h : Token.scanLine fuel d cs = some ts) :
    ts.length < fuel := by
  induction fuel generalizing d cs ts with
  | zero => cases h
  | succ n ih =>
    have hsame {d : ℕ} {r : List Char} (h : Token.scanLine n d r = some ts) : ts.length < n + 1 :=
      Nat.lt_succ_of_lt (ih h)
    have hnone (h : some [] = some ts) : ts.length < n + 1 := by
      obtain rfl := Option.some.inj h
      exact Nat.succ_pos n
    unfold Token.scanLine at h
    split at h
    · split_ifs at h
      exact hnone h
    · split_ifs at h
      · exact hsame h
      · exact hsame h
      · exact hnone h
      · exact hsame h
      · split at h
        · exact hsame h
        · cases h
      · split at h
        · cases h
        · split at h
          · cases h
          · obtain ⟨us, hus, rfl⟩ := Option.map_eq_some_iff.1 h
            exact Nat.succ_lt_succ (ih hus)

theorem length_le_of_firstLine {comment : Bool} {column continued n : ℕ} {cs r : List Char}
    (h : Token.firstLine comment column continued cs = some (n, r)) : r.length ≤ cs.length := by
  -- A continued line goes on two characters further, so the induction is on the length.
  induction hlength : cs.length using Nat.strongRecOn generalizing comment column continued cs with
  | ind m ih =>
    subst hlength
    unfold Token.firstLine at h
    split at h
    · obtain ⟨-, rfl⟩ := Prod.mk.inj (Option.some.inj h)
      exact Nat.le_refl _
    · rename_i c tail
      have hsame {b : Bool} {k l : ℕ} (h : Token.firstLine b k l tail = some (n, r)) :
          r.length ≤ (c :: tail).length :=
        (ih tail.length (Nat.lt_succ_self _) h rfl).trans (Nat.le_succ _)
      have hjoined {k : ℕ} {d : Char} {s : List Char} (htail : tail = '\n' :: d :: s)
          (hrest : Token.firstLine false column k (d :: s) = some (n, r)) :
          r.length ≤ (c :: tail).length := by
        have hshorter : (d :: s).length < (c :: tail).length := by simp [htail]
        exact (ih (d :: s).length hshorter hrest rfl).trans hshorter.le
      have hend {k : ℕ} (h : some (k, c :: tail) = some (n, r)) : r.length ≤ (c :: tail).length := by
        obtain ⟨-, rfl⟩ := Prod.mk.inj (Option.some.inj h)
        exact Nat.le_refl _
      split_ifs at h
      · exact hsame h
      · exact hsame h
      · exact hsame h
      · exact hsame h
      · exact hsame h
      · exact hsame h
      · split at h
        · exact hjoined rfl h
        · cases h
      · split at h
        · exact hjoined rfl h
        · cases h
      · exact hend h
      · exact hend h

theorem length_le_of_scan {cs : List Char} {ts : List Token} (h : Token.scan cs = some ts) :
    ts.length ≤ cs.length + 1 := by
  unfold Token.scan at h
  split at h
  · rename_i r hfirst
    have hscan := length_lt_of_scanLine h
    have hr := length_le_of_firstLine hfirst
    have hunified := length_unifyNewlines_le cs
    rw [List.length_append, List.length_singleton] at hr
    omega
  · cases h

/-! ## Parsing -/

/-- The phrase of a text is that of its tokens. -/
theorem ofText?_of_parses {cs : List Char} {ts : List Token} {p : Phrase}
    (hscan : Token.scan cs = some ts) (h : Parses 1 ts p) : Phrase.ofText? cs = some p := by
  have hlength := length_le_of_scan hscan
  have hfuel : 24 * ts.length ≤ 24 * (cs.length + 1) := Nat.mul_le_mul_left 24 hlength
  rw [Phrase.ofText?, hscan]
  exact h.ofTokens? hfuel

/-! ## Expressions -/

/-- The characters that another spelling of an operator begins with. -/
def respelled : List Char :=
  ['&', '|', '!', '^']

theorem respell_cons {c : Char} (h : c ∉ respelled) (r : List Char) :
    respell (c :: r) = c :: respell r := by
  simp only [respelled, List.mem_cons, List.not_mem_nil, or_false, not_or] at h
  obtain ⟨h1, h2, h3, h4⟩ := h
  rw [respell]
  · rintro _ rfl
    exact absurd rfl h1
  · rintro _ rfl
    exact absurd rfl h2
  · rintro _ rfl
    exact absurd rfl h3
  · rintro rfl
    exact absurd rfl h3
  · rintro rfl
    exact absurd rfl h4

theorem respell_append_of_no_operator {cs : List Char} (h : ∀ c ∈ cs, c ∉ respelled)
    (r : List Char) : respell (cs ++ r) = cs ++ respell r := by
  induction cs with
  | nil => rfl
  | cons c cs ih =>
    rw [List.cons_append, respell_cons (h c List.mem_cons_self),
      ih fun d hd => h d (List.mem_cons_of_mem _ hd), List.cons_append]

theorem respell_of_no_operator {cs : List Char} (h : ∀ c ∈ cs, c ∉ respelled) :
    respell cs = cs := by
  have happend := respell_append_of_no_operator h []
  rwa [List.append_nil, respell, List.append_nil] at happend

/-- The characters that an operator may go on with. -/
def operatorTails : List Char :=
  ['&', '|', '=']

/-- Where no operator goes on, the parts of a text are respelled apart. -/
theorem respell_append {c : Char} (hc : c ∉ operatorTails) (cs r : List Char) :
    respell (cs ++ c :: r) = respell cs ++ respell (c :: r) := by
  simp only [operatorTails, List.mem_cons, List.not_mem_nil, or_false, not_or] at hc
  obtain ⟨hand, hor, hequals⟩ := hc
  have hnext {s : List Char} {x : Char} (hx : c ≠ x) (hs : ∀ u, s ≠ x :: u) (u : List Char) :
      s ++ c :: r ≠ x :: u := by
    intro hu
    cases s with
    | nil => exact hx (List.cons.inj hu).1
    | cons e s => exact hs s (congrArg (· :: s) (List.cons.inj hu).1)
  fun_induction respell cs with
  | case1 s ih => simp [respell, ih]
  | case2 s ih => simp [respell, ih]
  | case3 s ih => simp [respell, ih]
  | case4 s hs ih =>
    rw [List.cons_append, respell, ih]
    · rfl
    · exact hnext hequals hs
  | case5 s ih => simp [respell, ih]
  | case6 d s h1 h2 h3 h4 h5 ih =>
    rw [List.cons_append, respell, ih]
    · rfl
    · exact fun u hd => hnext hand (fun v => h1 v hd) u
    · exact fun u hd => hnext hor (fun v => h2 v hd) u
    · exact fun u hd => hnext hequals (fun v => h3 v hd) u
    · exact h4
    · exact h5
  | case7 => rfl

/-- A text without blanks around it, in which nothing is respelled, is the expression that its
phrase is. -/
theorem read_of_ofText? {cs : List Char} (hne : cs ≠ []) (htrim : trim cs = cs)
    (hplain : ∀ c ∈ cs, c ∉ respelled ∧ c ≠ '\x00') {p : Phrase} (hp : Phrase.ofText? cs = some p) :
    Expr.read cs = (p.check 0).mapError fun f => f.obstacle.error (String.ofList cs) := by
  have hform : normalForm cs = cs := by
    rw [normalForm, respell_of_no_operator fun c hc => (hplain c hc).1, htrim]
  have hempty : cs.isEmpty = false := List.isEmpty_eq_false_iff.2 hne
  have hnull : cs.contains '\x00' = false :=
    Bool.eq_false_iff.2 fun hc => (hplain _ (List.contains_iff_mem.1 hc)).2 rfl
  rw [Expr.read, hform, htrim]
  simp only [hempty, hnull, hp, Bool.false_eq_true, if_false]

end GrowthGrammar.Expression
