import GrowthGrammar.Proofs.Expression.Blanks

/-!
# Texts in their one spelling

Respelling a text replaces four marks in turn, each of them from left to right
(`respell_eq_respellInTurn`).  It leaves exactly those texts alone that hold no mark to replace
(`respell_eq_self_iff`).  So a text in its one spelling is spelled for good, and quantities and
conditions are read from it as from the text itself (`normalForm_stable`).
-/

namespace GrowthGrammar

open Expression Text

namespace Expression

/-! ## One mark after the other -/

/-- A mark of an operator, the character that it stays in front of, and its other spelling. -/
structure Respelling where
  mark : List Char
  staysBefore : Option Char
  spelling : List Char
  mark_ne_nil : mark ≠ []
  spelling_ne_nil : spelling ≠ []

namespace Respelling

/-- The text begins with the mark, and not with one that stays. -/
def fits (s : Respelling) (cs : List Char) : Bool :=
  s.mark.isPrefixOf cs &&
    match s.staysBefore with
    | none => true
    | some c => (cs.drop s.mark.length).head? != some c

/-- The text with the other spelling for each mark, from left to right, behind a number of
characters that belong to the last mark. -/
def replaceFrom (s : Respelling) : ℕ → List Char → List Char
  | _, [] => []
  | n + 1, _ :: r => s.replaceFrom n r
  | 0, c :: r =>
    if s.fits (c :: r) then s.spelling ++ s.replaceFrom (s.mark.length - 1) r
    else c :: s.replaceFrom 0 r

/-- The text with the other spelling for each mark, from left to right. -/
def replace (s : Respelling) (cs : List Char) : List Char :=
  s.replaceFrom 0 cs

variable {s : Respelling} {c : Char} {r : List Char}

theorem fits_iff {cs : List Char} : s.fits cs = true ↔
    ∃ t, cs = s.mark ++ t ∧ ∀ d, s.staysBefore = some d → t.head? ≠ some d := by
  rw [fits, Bool.and_eq_true, List.isPrefixOf_iff_prefix]
  constructor
  · rintro ⟨⟨t, rfl⟩, h⟩
    refine ⟨t, rfl, fun d hd => ?_⟩
    simpa [hd] using h
  · rintro ⟨t, rfl, h⟩
    refine ⟨⟨t, rfl⟩, ?_⟩
    cases hd : s.staysBefore with
    | none => rfl
    | some d => simpa using h d hd

theorem replace_of_fits (h : s.fits (c :: r) = true) :
    s.replace (c :: r) = s.spelling ++ s.replaceFrom (s.mark.length - 1) r :=
  if_pos h

theorem replace_of_not_fits (h : ¬s.fits (c :: r) = true) :
    s.replace (c :: r) = c :: s.replace r :=
  if_neg h

/-- A character that begins no spelling begins the text only if it did before. -/
theorem exists_of_replace_eq_cons {x : Char} {cs u : List Char} (h : s.replace cs = x :: u)
    (hx : s.spelling.head? ≠ some x) : ∃ t, cs = x :: t := by
  cases cs with
  | nil => cases h
  | cons c r =>
    by_cases hc : s.fits (c :: r) = true
    · obtain ⟨d, m, hm⟩ := List.exists_cons_of_ne_nil s.spelling_ne_nil
      rw [replace_of_fits hc, hm, List.cons_append] at h
      exact absurd (by rw [hm, List.head?_cons, (List.cons.inj h).1]) hx
    · rw [replace_of_not_fits hc] at h
      exact ⟨r, by rw [(List.cons.inj h).1]⟩

end Respelling

/-- `&&` as `and`. -/
def ands : Respelling :=
  ⟨['&', '&'], none, [' ', 'a', 'n', 'd', ' '], by decide, by decide⟩

/-- `||` as `or`. -/
def ors : Respelling :=
  ⟨['|', '|'], none, [' ', 'o', 'r', ' '], by decide, by decide⟩

/-- `!`, unless it begins `!=`, as `not`. -/
def nots : Respelling :=
  ⟨['!'], some '=', [' ', 'n', 'o', 't', ' '], by decide, by decide⟩

/-- `^` as `**`. -/
def powers : Respelling :=
  ⟨['^'], none, ['*', '*'], by decide, by decide⟩

/-- The marks that are replaced, in their turn. -/
def respellings : List Respelling :=
  [ands, ors, nots, powers]

/-- The text in which one mark after the other is replaced. -/
def respellInTurn (cs : List Char) : List Char :=
  respellings.foldl (fun cs s => s.replace cs) cs

section Marks

variable {c : Char} {r : List Char}

theorem fits_ands : ands.fits (c :: r) = true ↔ c = '&' ∧ ∃ t, r = '&' :: t := by
  simp [Respelling.fits_iff, ands]

theorem fits_ors : ors.fits (c :: r) = true ↔ c = '|' ∧ ∃ t, r = '|' :: t := by
  simp [Respelling.fits_iff, ors]

theorem fits_nots : nots.fits (c :: r) = true ↔ c = '!' ∧ ∀ t, r ≠ '=' :: t := by
  cases r <;> simp [Respelling.fits_iff, nots]

theorem fits_powers : powers.fits (c :: r) = true ↔ c = '^' := by
  simp [Respelling.fits_iff, powers]

end Marks

open Respelling in
/-- No replacement makes or breaks another mark. -/
theorem respell_eq_respellInTurn (cs : List Char) : respell cs = respellInTurn cs := by
  have hor (r : List Char) (h : ∀ t, r ≠ '|' :: t) (t : List Char) : ands.replace r ≠ '|' :: t :=
    fun hr => (exists_of_replace_eq_cons hr (by decide)).elim h
  have hequals (r : List Char) (h : ∀ t, r ≠ '=' :: t) (t : List Char) :
      ors.replace (ands.replace r) ≠ '=' :: t := by
    intro hr
    obtain ⟨u, hu⟩ := exists_of_replace_eq_cons hr (by decide)
    exact (exists_of_replace_eq_cons hu (by decide)).elim h
  change respell cs = powers.replace (nots.replace (ors.replace (ands.replace cs)))
  fun_induction respell cs with
  | case1 r ih =>
    rw [replace_of_fits (fits_ands.2 ⟨rfl, r, rfl⟩), ih]
    rfl
  | case2 r ih =>
    have hands : ands.replace ('|' :: '|' :: r) = '|' :: '|' :: ands.replace r := rfl
    rw [hands, replace_of_fits (fits_ors.2 ⟨rfl, _, rfl⟩), ih]
    rfl
  | case3 r ih =>
    rw [ih]
    rfl
  | case4 r hr ih =>
    have hors : ors.replace (ands.replace ('!' :: r)) = '!' :: ors.replace (ands.replace r) := rfl
    rw [hors, replace_of_fits (fits_nots.2 ⟨rfl, hequals r hr⟩), ih]
    rfl
  | case5 r ih =>
    rw [ih]
    rfl
  | case6 c r hands hors _ hnot hpower ih =>
    have h1 : ¬ands.fits (c :: r) = true := fun h => by
      obtain ⟨rfl, t, rfl⟩ := fits_ands.1 h
      exact hands t rfl rfl
    have h2 : ¬ors.fits (c :: ands.replace r) = true := fun h => by
      obtain ⟨rfl, t, ht⟩ := fits_ors.1 h
      exact hor r (fun u hu => hors u rfl hu) t ht
    have h3 : ¬nots.fits (c :: ors.replace (ands.replace r)) = true := fun h =>
      hnot (fits_nots.1 h).1
    have h4 : ¬powers.fits (c :: nots.replace (ors.replace (ands.replace r))) = true := fun h =>
      hpower (fits_powers.1 h)
    rw [replace_of_not_fits h1, replace_of_not_fits h2, replace_of_not_fits h3,
      replace_of_not_fits h4, ih]
  | case7 => rfl

/-! ## Texts without marks to replace -/

/-- No `&&`, `||` or `^` is in the text, and no `!` but in `!=`. -/
structure IsRespelled (cs : List Char) : Prop where
  no_and : ¬['&', '&'] <:+: cs
  no_or : ¬['|', '|'] <:+: cs
  no_power : '^' ∉ cs
  no_not : ∀ l r, cs = l ++ '!' :: r → ∃ t, r = '=' :: t

section Respelled

variable {c : Char} {cs r : List Char}

/-- No mark that is replaced begins with the first character. -/
def StartsPlain (cs : List Char) : Prop :=
  ∀ s ∈ respellings, ¬s.fits cs = true

theorem startsPlain_cons : StartsPlain (c :: r) ↔ ¬(c = '&' ∧ ∃ t, r = '&' :: t) ∧
    ¬(c = '|' ∧ ∃ t, r = '|' :: t) ∧ ¬(c = '!' ∧ ∀ t, r ≠ '=' :: t) ∧ c ≠ '^' := by
  simp only [StartsPlain, respellings, List.forall_mem_cons, List.not_mem_nil, false_imp_iff,
    implies_true, and_true, fits_ands, fits_ors, fits_nots, fits_powers, ne_eq]

theorem startsPlain_of_not_mem (hc : c ∉ respelled) (r : List Char) : StartsPlain (c :: r) := by
  simp only [respelled, List.mem_cons, List.not_mem_nil, or_false, not_or] at hc
  exact startsPlain_cons.2 ⟨fun h => hc.1 h.1, fun h => hc.2.1 h.1, fun h => hc.2.2.1 h.1, hc.2.2.2⟩

theorem pair_infix_cons {a b : Char} :
    [a, b] <:+: c :: r ↔ (c = a ∧ ∃ t, r = b :: t) ∨ [a, b] <:+: r := by
  have hb : [b] <+: r ↔ ∃ t, r = b :: t :=
    ⟨fun ⟨t, ht⟩ => ⟨t, ht.symm⟩, fun ⟨t, ht⟩ => ⟨t, ht.symm⟩⟩
  rw [List.infix_cons_iff, List.cons_prefix_cons, hb, eq_comm (a := a)]

/-- A respelled text starts plain, and goes on as a respelled text. -/
theorem isRespelled_cons :
    IsRespelled (c :: r) ↔ StartsPlain (c :: r) ∧ IsRespelled r := by
  rw [startsPlain_cons]
  constructor
  · intro h
    refine ⟨⟨fun hand => ?_, fun hor => ?_, ?_, ?_⟩, ?_⟩
    · exact h.no_and (pair_infix_cons.2 (Or.inl hand))
    · exact h.no_or (pair_infix_cons.2 (Or.inl hor))
    · rintro ⟨rfl, hr⟩
      exact (h.no_not [] r rfl).elim hr
    · rintro rfl
      exact h.no_power List.mem_cons_self
    · exact ⟨fun hi => h.no_and (List.infix_cons hi), fun hi => h.no_or (List.infix_cons hi),
        fun hmem => h.no_power (List.mem_cons_of_mem c hmem),
        fun l t ht => h.no_not (c :: l) t (congrArg (c :: ·) ht)⟩
  · rintro ⟨⟨hand, hor, hnot, hpower⟩, h⟩
    refine ⟨fun hi => ?_, fun hi => ?_, fun hmem => ?_, fun l t ht => ?_⟩
    · exact (pair_infix_cons.1 hi).elim hand h.no_and
    · exact (pair_infix_cons.1 hi).elim hor h.no_or
    · rcases List.mem_cons.1 hmem with rfl | hmem
      · exact hpower rfl
      · exact h.no_power hmem
    · cases l with
      | nil =>
        obtain ⟨rfl, rfl⟩ := List.cons.inj ht
        by_contra hr
        exact hnot ⟨rfl, not_exists.1 hr⟩
      | cons d l => exact h.no_not l t (List.cons.inj ht).2

theorem isRespelled_append {p : List Char} (hp : ∀ c ∈ p, c ∉ respelled) (h : IsRespelled r) :
    IsRespelled (p ++ r) := by
  induction p with
  | nil => exact h
  | cons c p ih =>
    obtain ⟨hc, hp⟩ := List.forall_mem_cons.1 hp
    exact isRespelled_cons.2 ⟨startsPlain_of_not_mem hc _, ih hp⟩

/-- A character that begins no spelling begins the respelled text only if it began the text. -/
theorem exists_of_respell_eq_cons {x : Char} {u : List Char} (hx : x ∉ [' ', '*'])
    (h : respell cs = x :: u) : ∃ t, cs = x :: t := by
  simp only [List.mem_cons, List.not_mem_nil, or_false, not_or] at hx
  have hspace : some ' ' ≠ some x := fun hc => hx.1 (Option.some.inj hc).symm
  have hstar : some '*' ≠ some x := fun hc => hx.2 (Option.some.inj hc).symm
  rw [respell_eq_respellInTurn] at h
  obtain ⟨_, h⟩ := Respelling.exists_of_replace_eq_cons h hstar
  obtain ⟨_, h⟩ := Respelling.exists_of_replace_eq_cons h hspace
  obtain ⟨_, h⟩ := Respelling.exists_of_replace_eq_cons h hspace
  exact Respelling.exists_of_replace_eq_cons h hspace

theorem isRespelled_respell (cs : List Char) : IsRespelled (respell cs) := by
  fun_induction respell cs with
  | case1 r ih => exact isRespelled_append (p := ands.spelling) (by simp [ands, respelled]) ih
  | case2 r ih => exact isRespelled_append (p := ors.spelling) (by simp [ors, respelled]) ih
  | case3 r ih =>
    have hplain : StartsPlain ('!' :: '=' :: respell r) :=
      startsPlain_cons.2 ⟨by simp, by simp, by simp, by decide⟩
    exact isRespelled_cons.2 ⟨hplain, isRespelled_append (p := ['=']) (by simp [respelled]) ih⟩
  | case4 r _ ih => exact isRespelled_append (p := nots.spelling) (by simp [nots, respelled]) ih
  | case5 r ih => exact isRespelled_append (p := powers.spelling) (by simp [powers, respelled]) ih
  | case6 c r hand hor _ hnot hpower ih =>
    have hplain : StartsPlain (c :: respell r) := by
      refine startsPlain_cons.2 ⟨?_, ?_, fun h => hnot h.1, hpower⟩
      · rintro ⟨rfl, t, ht⟩
        exact (exists_of_respell_eq_cons (by decide) ht).elim fun u hu => hand u rfl hu
      · rintro ⟨rfl, t, ht⟩
        exact (exists_of_respell_eq_cons (by decide) ht).elim fun u hu => hor u rfl hu
    exact isRespelled_cons.2 ⟨hplain, ih⟩
  | case7 => exact ⟨by simp, by simp, by simp, by simp⟩

theorem respell_of_isRespelled (h : IsRespelled cs) : respell cs = cs := by
  fun_induction respell cs with
  | case1 r => exact absurd ⟨[], r, rfl⟩ h.no_and
  | case2 r => exact absurd ⟨[], r, rfl⟩ h.no_or
  | case3 r ih => rw [ih (isRespelled_cons.1 (isRespelled_cons.1 h).2).2]
  | case4 r hr => exact (h.no_not [] r rfl).elim fun t ht => absurd ht (hr t)
  | case5 r => exact absurd List.mem_cons_self h.no_power
  | case6 c r _ _ _ _ _ ih => rw [ih (isRespelled_cons.1 h).2]
  | case7 => rfl

/-- The texts that are left alone are those without marks to replace. -/
theorem respell_eq_self_iff : respell cs = cs ↔ IsRespelled cs :=
  ⟨fun h => h ▸ isRespelled_respell cs, respell_of_isRespelled⟩

/-- Trimming takes no mark apart, as none has a blank in it. -/
theorem IsRespelled.trim (h : IsRespelled cs) : IsRespelled (trim cs) := by
  have hinfix := infix_trim cs
  refine ⟨fun hi => h.no_and (hi.trans hinfix), fun hi => h.no_or (hi.trans hinfix),
    fun hmem => h.no_power (mem_of_mem_trim hmem), fun l r hcs => ?_⟩
  obtain ⟨a, b, -, hb, htext⟩ := exists_trim cs
  obtain ⟨t, ht⟩ := h.no_not (a ++ l) (r ++ b) (by rw [htext, hcs]; simp)
  cases r with
  | nil =>
    have hequals : '=' ∈ b := by
      rw [List.nil_append] at ht
      exact ht ▸ List.mem_cons_self
    exact absurd hequals (not_mem_of_isBlankText hb (by decide))
  | cons d r => exact ⟨r, by rw [(List.cons.inj ht).1]⟩

theorem isRespelled_normalForm (cs : List Char) : IsRespelled (normalForm cs) :=
  (isRespelled_respell cs).trim

theorem normalForm_normalForm (cs : List Char) : normalForm (normalForm cs) = normalForm cs := by
  rw [normalForm, respell_of_isRespelled (isRespelled_normalForm cs), normalForm, trim_trim]

end Respelled

end Expression

/-! ## Readings that come to the same -/

/-- The error with another text of its expression. -/
def Error.reworded (text : String) : Error → Error
  | .expression (.refused _ r) => .expression (.refused text r)
  | .expression (.failed _ f) => .expression (.failed text f)
  | e => e

/-- Both succeed with answers in a relation, or both fail for one reason, in whatever text. -/
def Alike {α β : Type} (R : α → β → Prop) : Except Error α → Except Error β → Prop
  | .ok a, .ok b => R a b
  | .error e, .error f => e.reworded "" = f.reworded ""
  | _, _ => False

/-- The names are the same, and in every environment, also in one of given numbers of any size, the
values are the same or both fail for one reason. -/
structure SameMeaning {α β : Type} (namesOf : α → List String) (textOf : α → String)
    (valueOf : α → Environment → Except Error β) (x y : α) : Prop where
  names : namesOf x = namesOf y
  value (env : Environment) : Alike (· = ·) (valueOf x env) (valueOf y env)
  given (entries : List (String × Number.Given)) :
    Alike (· = ·) (Environment.forText (textOf x) entries >>= valueOf x)
      (Environment.forText (textOf y) entries >>= valueOf y)

section Alike

variable {α β γ δ : Type} {R : α → β → Prop} {S : γ → δ → Prop}

theorem Alike.bind {x : Except Error α} {y : Except Error β} {f : α → Except Error γ}
    {g : β → Except Error δ} (h : Alike R x y) (hfg : ∀ a b, R a b → Alike S (f a) (g b)) :
    Alike S (x >>= f) (y >>= g) := by
  cases x <;> cases y
  · exact h
  · exact h.elim
  · exact h.elim
  · exact hfg _ _ h

theorem Alike.mono {R' : α → β → Prop} {x : Except Error α} {y : Except Error β} (h : Alike R x y)
    (hR : ∀ a b, R a b → R' a b) : Alike R' x y := by
  cases x <;> cases y
  · exact h
  · exact h
  · exact h
  · exact hR _ _ h

theorem alike_mapError {ε : Type} {f g : ε → Error}
    (h : ∀ e, (f e).reworded "" = (g e).reworded "") (x : Except ε α) :
    Alike (· = ·) (x.mapError f) (x.mapError g) := by
  cases x with
  | error e => exact h e
  | ok a => exact rfl

end Alike

section Reading

variable {cs ds : List Char}

/-- An expression is read from the one spelling of its text. -/
theorem Expr.alike_read (h : normalForm cs = normalForm ds) :
    Alike (· = ·) (Expr.read cs) (Expr.read ds) := by
  unfold Expr.read
  rw [h]
  dsimp only
  split_ifs
  · rfl
  · rfl
  · cases Phrase.ofText? (normalForm ds) with
    | none => rfl
    | some p =>
      refine alike_mapError (fun f => ?_) _
      cases f.obstacle <;> rfl

theorem Expr.alike_value (s t : String) (env : Environment) (e : Expr) :
    Alike (· = ·) (e.value s env) (e.value t env) := by
  unfold Expr.value
  refine alike_mapError (fun f => ?_) _
  rfl

theorem Environment.alike_forText (s t : String) (entries : List (String × Number.Given)) :
    Alike (· = ·) (Environment.forText s entries) (Environment.forText t entries) := by
  unfold Environment.forText
  refine alike_mapError (fun f => ?_) _
  rfl

/-- What means the same in every environment does so for given numbers. -/
theorem SameMeaning.of_value {α β : Type} {namesOf : α → List String} {textOf : α → String}
    {valueOf : α → Environment → Except Error β} {x y : α} (hnames : namesOf x = namesOf y)
    (hvalue : ∀ env, Alike (· = ·) (valueOf x env) (valueOf y env)) :
    SameMeaning namesOf textOf valueOf x y := by
  refine ⟨hnames, hvalue, fun entries => ?_⟩
  refine (Environment.alike_forText (textOf x) (textOf y) entries).bind ?_
  rintro env _ rfl
  exact hvalue env

/-- Quantities of one expression mean the same. -/
theorem Quantity.sameMeaning {p q : Quantity} (h : p.expr = q.expr) :
    SameMeaning Quantity.names Quantity.text Quantity.evaluate p q := by
  refine .of_value (congrArg Expr.names h) fun env => ?_
  unfold Quantity.evaluate
  rw [h]
  refine (Expr.alike_value p.text q.text env q.expr).bind ?_
  rintro v _ rfl
  cases v.toFloat? with
  | some x => exact rfl
  | none =>
    unfold Quantity.notReal
    cases v.text? <;> rfl

/-- Conditions of one expression mean the same. -/
theorem Condition.sameMeaning {c d : Condition} (h : c.expr = d.expr) :
    SameMeaning Condition.names Condition.text Condition.holds c d := by
  refine .of_value (congrArg Expr.names h) fun env => ?_
  unfold Condition.holds
  rw [h]
  refine (Expr.alike_value c.text d.text env d.expr).bind ?_
  rintro v _ rfl
  exact rfl

theorem Quantity.alike_read (h : normalForm cs = normalForm ds) :
    Alike (fun p q : Quantity => p.expr = q.expr) (Quantity.read cs) (Quantity.read ds) := by
  refine (Expr.alike_read h).bind ?_
  rintro e _ rfl
  dsimp only
  split_ifs
  · rfl
  · exact rfl

theorem Quantity.alike_readConstant (h : normalForm cs = normalForm ds) :
    Alike (fun p q : Quantity => p.expr = q.expr) (Quantity.readConstant cs)
      (Quantity.readConstant ds) := by
  refine (Quantity.alike_read h).bind fun p q hpq => ?_
  have hnames : p.names = q.names := congrArg Expr.names hpq
  rw [hnames]
  split_ifs
  · exact hpq
  · rfl

theorem Condition.alike_read (h : normalForm cs = normalForm ds) :
    Alike (fun c d : Condition => c.expr = d.expr) (Condition.read cs) (Condition.read ds) := by
  refine (Expr.alike_read h).bind ?_
  rintro e _ rfl
  exact rfl

end Reading

/-! ## Main statement -/

/-- The one spelling of a text is the trimmed text with one mark after the other replaced.  It stays
as it is, holds no mark to replace, and is read as what the text is read as. -/
theorem normalForm_stable (cs : List Char) :
    normalForm cs = trim (respellInTurn cs) ∧ normalForm (normalForm cs) = normalForm cs ∧
      IsRespelled (normalForm cs) ∧
      Alike (SameMeaning Quantity.names Quantity.text Quantity.evaluate)
        (Quantity.read cs) (Quantity.read (normalForm cs)) ∧
      Alike (SameMeaning Quantity.names Quantity.text Quantity.evaluate)
        (Quantity.readConstant cs) (Quantity.readConstant (normalForm cs)) ∧
      Alike (SameMeaning Condition.names Condition.text Condition.holds)
        (Condition.read cs) (Condition.read (normalForm cs)) := by
  have hform := normalForm_normalForm cs
  refine ⟨?_, hform, isRespelled_normalForm cs, ?_, ?_, ?_⟩
  · rw [normalForm, respell_eq_respellInTurn]
  · exact (Quantity.alike_read hform.symm).mono fun _ _ => Quantity.sameMeaning
  · exact (Quantity.alike_readConstant hform.symm).mono fun _ _ => Quantity.sameMeaning
  · exact (Condition.alike_read hform.symm).mono fun _ _ => Condition.sameMeaning

example : normalForm "!a&&&b ^!!=c|||!".toList = "not a and &b ** not !=c or | not".toList := by
  decide +kernel

end GrowthGrammar
