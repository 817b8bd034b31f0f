import GrowthGrammar.Json.Reader
import GrowthGrammar.Json.Writer
import GrowthGrammar.Proofs.Number.Written

/-!
# Strings and numbers of data files

What is written for a string, an integer or a double is read back as it was.  A string is read
character by character (`readString_stringChar`).  The text of a number is followed by something
that no number goes on with (`EndsNumber`); it is a sign and digits, and the parts of the digits are
read one after the other (`readNumber_of_parts`).
-/

namespace GrowthGrammar.Json

open GrowthGrammar.Number GrowthGrammar.Text

/-! ## Strings -/

section Strings

variable {c d : Char} {r : List Char} (start : ℕ)

theorem readString_plain (hquote : c ≠ '"') (hescape : c ≠ '\\') (h : ¬c.toNat < 32) :
    readString start (c :: r) = andChar c (readString start r) := by
  rw [readString, if_neg h]
  · rintro rfl
    exact absurd rfl hquote
  · rintro _ _ _ _ _ rfl
    exact absurd rfl hescape
  · rintro _ rfl
    exact absurd rfl hescape
  · rintro _ _ rfl
    exact absurd rfl hescape
  · rintro rfl
    exact absurd rfl hescape

theorem readString_escaped (hc : c ≠ 'u') (h : escaped? c = some d) :
    readString start ('\\' :: c :: r) = andChar d (readString start r) := by
  rw [readString, h]
  · rintro _ _ _ _ _ rfl
    exact absurd rfl hc
  · rintro rfl
    exact absurd rfl hc

/-- Four hexadecimal digits for no surrogate stand for a character of their own. -/
theorem readString_unit {a b c d : Char} {n : ℕ} (h : hexFour? a b c d = some n)
    (hn : n < 0xD800) (hr : r ≠ []) :
    readString start ('\\' :: 'u' :: a :: b :: c :: d :: r) =
      andChar (Char.ofNat n) (readString start r) := by
  have hunit (e : Except Stop (List Char × List Char)) : andUnit n e = andChar (Char.ofNat n) e :=
    if_neg (by omega)
  rw [readString, if_neg (by simpa using hr), h]
  dsimp only
  split
  · rw [if_neg (by omega), hunit]
  · rw [hunit]

theorem hexFour?_hexDigit : ∀ n < 32,
    hexFour? (hexDigit (n / 16 / 16 / 16 % 16)) (hexDigit (n / 16 / 16 % 16))
      (hexDigit (n / 16 % 16)) (hexDigit (n % 16)) = some n := by
  decide

theorem readString_stringChar (c : Char) (hr : r ≠ []) :
    readString start (stringChar c ++ r) = andChar c (readString start r) := by
  unfold stringChar
  split_ifs with h1 h2 h3 h4 h5 h6 h7
  · rcases h1 with rfl | rfl
    · exact readString_escaped start (by decide) rfl
    · exact readString_escaped start (by decide) rfl
  · subst h2
    exact readString_escaped start (by decide) rfl
  · subst h3
    exact readString_escaped start (by decide) rfl
  · subst h4
    exact readString_escaped start (by decide) rfl
  · subst h5
    exact readString_escaped start (by decide) rfl
  · subst h6
    exact readString_escaped start (by decide) rfl
  · have h := readString_unit start (hexFour?_hexDigit c.toNat h7) (by omega) hr
    rw [Char.ofNat_toNat] at h
    exact h
  · obtain ⟨hquote, hescape⟩ := not_or.1 h1
    exact readString_plain start hquote hescape h7

/-- The characters of a string up to its closing quote are those that were written. -/
theorem readString_flatMap (cs r : List Char) :
    readString start (cs.flatMap stringChar ++ '"' :: r) = .ok (cs, r) := by
  induction cs with
  | nil => rw [List.flatMap_nil, List.nil_append, readString]
  | cons c cs ih =>
    rw [List.flatMap_cons, List.append_assoc, readString_stringChar start c (by simp), ih]
    rfl

end Strings

/-! ## Numbers -/

/-- The text begins with nothing that goes on with the digits of a number. -/
def EndsNumber (r : List Char) : Prop :=
  ∀ c s, r = c :: s → c.isDigit = false ∧ c ≠ '.' ∧ c ≠ 'e' ∧ c ≠ 'E'

theorem endsNumber_cons {c : Char} (h : c.isDigit = false ∧ c ≠ '.' ∧ c ≠ 'e' ∧ c ≠ 'E')
    (s : List Char) : EndsNumber (c :: s) := by
  rintro d t hr
  obtain ⟨rfl, -⟩ := List.cons.inj hr
  exact h

theorem signed_natAbs (n : ℤ) :
    (if decide (n < 0) = true then -(n.natAbs : ℤ) else n.natAbs) = n := by
  by_cases h : n < 0
  · rw [if_pos (decide_eq_true h)]
    omega
  · rw [if_neg (by simpa using h)]
    omega

theorem intDigits_eq_append (n : ℤ) :
    intDigits n = (if decide (n < 0) then ['-'] else []) ++ natDigits n.natAbs := by
  unfold intDigits
  by_cases h : n < 0 <;> simp [h]

/-- The text does not begin with a digit. -/
def NoDigit (r : List Char) : Prop :=
  ∀ c s, r = c :: s → c.isDigit = false

theorem noDigit_cons {c : Char} (h : c.isDigit = false) (s : List Char) : NoDigit (c :: s) := by
  rintro d t hr
  obtain ⟨rfl, -⟩ := List.cons.inj hr
  exact h

theorem EndsNumber.noDigit {r : List Char} (h : EndsNumber r) : NoDigit r :=
  fun c s hr => (h c s hr).1

theorem takeDigits_append {ds r : List Char} (hds : ∀ c ∈ ds, c.isDigit = true) (hr : NoDigit r) :
    takeDigits (ds ++ r) = (ds, r) := by
  have htail : r.takeWhile Char.isDigit = [] ∧ r.dropWhile Char.isDigit = r := by
    cases r with
    | nil => exact ⟨rfl, rfl⟩
    | cons c s =>
      have hc := hr c s rfl
      simp [hc]
  rw [takeDigits, List.span_eq_takeWhile_dropWhile, List.takeWhile_append_of_pos hds,
    List.dropWhile_append_of_pos hds, htail.1, htail.2, List.append_nil]

theorem readWhole_append {front r : List Char} (hne : front ≠ [])
    (hdigits : ∀ c ∈ front, c.isDigit = true) (hhead : front = ['0'] ∨ front.head? ≠ some '0')
    (hr : NoDigit r) : readWhole (front ++ r) = some (front, r) := by
  rcases hhead with rfl | hhead
  · rfl
  · obtain ⟨d, f, rfl⟩ := List.exists_cons_of_ne_nil hne
    have hd : d ≠ '0' := fun h => hhead (congrArg some h)
    have hrun := takeDigits_append hdigits hr
    rw [List.cons_append] at hrun
    rw [List.cons_append, readWhole, if_neg hd, if_pos (hdigits d List.mem_cons_self), hrun]

theorem readFraction_point {ds r : List Char} (hne : ds ≠ [])
    (hdigits : ∀ c ∈ ds, c.isDigit = true) (hr : NoDigit r) :
    readFraction ('.' :: (ds ++ r)) = (some ds, r) := by
  obtain ⟨d, f, rfl⟩ := List.exists_cons_of_ne_nil hne
  have hrun := takeDigits_append hdigits hr
  rw [List.cons_append] at hrun
  rw [List.cons_append, readFraction, if_pos (hdigits d List.mem_cons_self), hrun]

theorem readFraction_of_ne {r : List Char} (hr : ∀ s, r ≠ '.' :: s) :
    readFraction r = (none, r) := by
  rw [readFraction]
  exact fun c s h => hr (c :: s) h

theorem readExponent_exponentChars (e : ℤ) {r : List Char} (hr : NoDigit r) :
    readExponent (Layout.exponentChars e ++ r) = (some e, r) := by
  obtain ⟨ds, hchars, hne, hdigits, hvalue⟩ := exists_exponentDigits e
  have hrun := takeDigits_append hdigits hr
  have hsign : takeSign ((if e < 0 then '-' else '+') :: (ds ++ r)) =
      (decide (e < 0), ds ++ r) := by
    by_cases h : e < 0 <;> simp [h, takeSign]
  rw [hchars, List.cons_append, List.cons_append, readExponent, if_pos (Or.inl rfl), hsign]
  dsimp only
  rw [hrun]
  cases ds with
  | nil => exact absurd rfl hne
  | cons d f =>
    simp only [hvalue, signed_natAbs]

theorem readExponent_of_ne {r : List Char} (hr : ∀ c s, r = c :: s → c ≠ 'e' ∧ c ≠ 'E') :
    readExponent r = (none, r) := by
  cases r with
  | nil => rfl
  | cons c s =>
    obtain ⟨he, he'⟩ := hr c s rfl
    rw [readExponent, if_neg (not_or.2 ⟨he, he'⟩)]

/-- A number from its sign and what is read of its digits. -/
theorem readNumber_of_parts (negative : Bool) {body front r r' r'' : List Char}
    {fraction : Option (List Char)} {exponent : Option ℤ} (hbody : ∀ s, body ≠ '-' :: s)
    (hwhole : readWhole body = some (front, r)) (hfraction : readFraction r = (fraction, r'))
    (hexponent : readExponent r' = (exponent, r'')) :
    readNumber ((if negative then ['-'] else []) ++ body) =
      if fraction.isNone ∧ exponent.isNone then
        if digitLimit < front.length then .error (.tooManyDigits front.length)
        else .ok (integer (if negative then -(Nat.ofDigitChars 10 front 0 : ℤ)
          else Nat.ofDigitChars 10 front 0), r'')
      else
        .ok (double
          ((Decimal.ofDigits front (fraction.getD []) (exponent.getD 0)).toFloat negative), r'') := by
  cases negative with
  | true =>
    rw [if_pos rfl, List.singleton_append, readNumber]
    dsimp only
    rw [hwhole]
    dsimp only
    rw [hfraction]
    dsimp only
    rw [hexponent]
  | false =>
    rw [if_neg Bool.false_ne_true, List.nil_append]
    unfold readNumber
    split
    rename_i negative' body' heq
    split at heq
    · exact absurd rfl (hbody _)
    · obtain ⟨rfl, rfl⟩ := Prod.mk.inj heq
      rw [hwhole]
      dsimp only
      rw [hfraction]
      dsimp only
      rw [hexponent]

theorem ne_minus_of_digits {front : List Char} (hne : front ≠ [])
    (hdigits : ∀ c ∈ front, c.isDigit = true) (r s : List Char) : front ++ r ≠ '-' :: s := by
  obtain ⟨d, f, rfl⟩ := List.exists_cons_of_ne_nil hne
  intro h
  have hd := hdigits d List.mem_cons_self
  rw [(List.cons.inj h).1] at hd
  cases hd

/-- An integer is read from its digits, unless there are too many of them. -/
theorem readNumber_intDigits {n : ℤ} (hn : digitCount n.natAbs ≤ digitLimit) {r : List Char}
    (hr : EndsNumber r) : readNumber (intDigits n ++ r) = .ok (integer n, r) := by
  have hdigits : ∀ c ∈ natDigits n.natAbs, c.isDigit = true := fun c => isDigit_of_mem_natDigits
  have hhead : natDigits n.natAbs = ['0'] ∨ (natDigits n.natAbs).head? ≠ some '0' := by
    rcases Nat.eq_zero_or_pos n.natAbs with h | h
    · rw [h]
      exact Or.inl rfl
    · exact Or.inr (head_natDigits_ne_zero h)
  have hwhole := readWhole_append (natDigits_ne_nil _) hdigits hhead hr.noDigit
  have hfraction : readFraction r = (none, r) :=
    readFraction_of_ne fun s h => (hr '.' s h).2.1 rfl
  have hexponent : readExponent r = (none, r) :=
    readExponent_of_ne fun c s h => (hr c s h).2.2
  have hvalue : Nat.ofDigitChars 10 (natDigits n.natAbs) 0 = n.natAbs :=
    Nat.ofDigitChars_ten_toDigits
  have hshort : ¬digitLimit < (natDigits n.natAbs).length := Nat.not_lt.2 hn
  rw [intDigits_eq_append, List.append_assoc,
    readNumber_of_parts _ (ne_minus_of_digits (natDigits_ne_nil _) hdigits r) hwhole hfraction
      hexponent, if_pos ⟨rfl, rfl⟩, if_neg hshort, hvalue, signed_natAbs]

section Numerals

variable (w : Numeral) {r : List Char} (hr : EndsNumber r)

include hr

theorem exponentChars_ends {c : Char} {s : List Char} (h : w.exponentChars ++ r = c :: s) :
    c.isDigit = false ∧ c ≠ '.' := by
  unfold Numeral.exponentChars at h
  cases he : w.exponent with
  | none =>
    rw [he] at h
    obtain ⟨hdigit, hpoint, -⟩ := hr c s h
    exact ⟨hdigit, hpoint⟩
  | some e =>
    obtain ⟨ds, hchars, -⟩ := exists_exponentDigits e
    rw [he] at h
    dsimp only at h
    rw [hchars, List.cons_append] at h
    obtain ⟨rfl, -⟩ := List.cons.inj h
    exact ⟨rfl, by decide⟩

theorem readExponent_numeral : readExponent (w.exponentChars ++ r) = (w.exponent, r) := by
  unfold Numeral.exponentChars
  cases w.exponent with
  | none => exact readExponent_of_ne fun c s h => (hr c s h).2.2
  | some e => exact readExponent_exponentChars e hr.noDigit

theorem readFraction_numeral (hproper : w.IsProper) :
    readFraction (w.tailChars ++ r) = (w.back, w.exponentChars ++ r) := by
  rw [Numeral.tailChars, List.append_assoc]
  unfold Numeral.pointChars
  cases hb : w.back with
  | none => exact readFraction_of_ne fun s h => (exponentChars_ends w hr h).2 rfl
  | some ds =>
    have hne : ds ≠ [] := fun h => hproper.back (h ▸ hb)
    exact readFraction_point hne (w.back_digits ds hb)
      fun c s h => (exponentChars_ends w hr h).1

theorem readWhole_numeral (hproper : w.IsProper) :
    readWhole (w.chars ++ r) = some (w.front, w.tailChars ++ r) := by
  have htail : NoDigit (w.tailChars ++ r) := by
    rw [Numeral.tailChars, List.append_assoc]
    unfold Numeral.pointChars
    cases w.back with
    | none => exact fun c s h => (exponentChars_ends w hr h).1
    | some ds => exact noDigit_cons rfl _
  rw [Numeral.chars, List.append_assoc]
  exact readWhole_append w.front_ne_nil w.front_digits hproper.front htail

/-- A numeral with a point or an exponent is read as the double nearest to it. -/
theorem readNumber_numeral (negative : Bool) (hw : w.IsFractional) (hproper : w.IsProper) :
    readNumber ((if negative then ['-'] else []) ++ (w.chars ++ r)) =
      .ok (double (w.decimal.toFloat negative), r) := by
  have hbody (s : List Char) : w.chars ++ r ≠ '-' :: s := by
    rw [Numeral.chars, List.append_assoc]
    exact ne_minus_of_digits w.front_ne_nil w.front_digits _ s
  have hkind : ¬(w.back.isNone ∧ w.exponent.isNone) := by
    rintro ⟨hback, hexponent⟩
    rw [Option.isNone_iff_eq_none] at hback hexponent
    rcases hw with h | h
    · simp [hback] at h
    · simp [hexponent] at h
  rw [readNumber_of_parts negative hbody (readWhole_numeral w hr hproper)
    (readFraction_numeral w hr hproper) (readExponent_numeral w hr), if_neg hkind]
  rfl

end Numerals

/-! ## Words and numbers -/

/-- A text that begins with a digit behind its sign is none of the words. -/
theorem readScalar_of_digit (negative : Bool) {d : Char} (hd : d.isDigit = true) (s : List Char) :
    readScalar ((if negative then ['-'] else []) ++ d :: s) =
      readNumber ((if negative then ['-'] else []) ++ d :: s) := by
  have hne (c : Char) (hc : c.isDigit = false) : (c == d) = false := by
    rw [beq_eq_false_iff_ne]
    rintro rfl
    rw [hd] at hc
    cases hc
  have hwords : literals = [(['n', 'u', 'l', 'l'], null), (['t', 'r', 'u', 'e'], bool true),
      (['f', 'a', 'l', 's', 'e'], bool false), (['N', 'a', 'N'], double notANumber),
      (['I', 'n', 'f', 'i', 'n', 'i', 't', 'y'], double (infinity false)),
      (['-', 'I', 'n', 'f', 'i', 'n', 'i', 't', 'y'], double (infinity true))] := rfl
  have hnone : ∀ entry ∈ literals,
      entry.1.isPrefixOf ((if negative then ['-'] else []) ++ d :: s) = false := by
    rw [hwords]
    cases negative <;> simp [List.isPrefixOf, hne]
  unfold readScalar
  split
  · rename_i w v hfound
    have hprefix := List.find?_some hfound
    cases (hnone _ (List.mem_of_find?_eq_some hfound)).symm.trans hprefix
  · rfl

/-- A double is read back, also if it is infinite or no number. -/
theorem readScalar_dataChars (x : Float) {r : List Char} (hr : EndsNumber r) :
    readScalar (Layout.data.chars x ++ r) = .ok (double x, r) := by
  by_cases h : magnitude x < infinityMagnitude
  · obtain ⟨w, hw, hproper, hmag, htext⟩ := dataChars_finite h
    obtain ⟨d, f, hfront⟩ := List.exists_cons_of_ne_nil w.front_ne_nil
    have hd : d.isDigit = true := w.front_digits d (hfront ▸ List.mem_cons_self)
    have hchars : w.chars ++ r = d :: (f ++ w.tailChars ++ r) := by
      rw [Numeral.chars, hfront]
      simp
    have hx : w.decimal.toFloat (isNegative x) = x := by
      rw [Decimal.toFloat, hmag, ofMagnitude_magnitude]
    rw [htext, List.append_assoc, hchars, readScalar_of_digit _ hd, ← hchars,
      readNumber_numeral w hr _ hw hproper, hx]
  · rcases parts_of_not_finite h with hp | hp
    · have hx := eq_infinity_of_parts hp
      simp only [Layout.chars, hp]
      rw [hx]
      cases isNegative x <;> rfl
    · have hx := eq_notANumber_of_parts hp
      simp only [Layout.chars, hp]
      rw [hx]
      rfl

theorem readScalar_intDigits {n : ℤ} (hn : digitCount n.natAbs ≤ digitLimit) {r : List Char}
    (hr : EndsNumber r) : readScalar (intDigits n ++ r) = .ok (integer n, r) := by
  obtain ⟨d, f, hdigits⟩ := List.exists_cons_of_ne_nil (natDigits_ne_nil n.natAbs)
  have hd : d.isDigit = true := isDigit_of_mem_natDigits (hdigits ▸ List.mem_cons_self)
  have htext : intDigits n ++ r = (if decide (n < 0) then ['-'] else []) ++ d :: (f ++ r) := by
    rw [intDigits_eq_append, hdigits, List.append_assoc, List.cons_append]
  have hread := readNumber_intDigits hn hr
  rw [htext] at hread ⊢
  rw [readScalar_of_digit _ hd, hread]

end GrowthGrammar.Json
