import GrowthGrammar.Proofs.Entries
import GrowthGrammar.Proofs.Json.Scalar
import GrowthGrammar.Proofs.Text.Lines

/-!
# Reading what was written

Main statement: a value that is written over several lines is read back exactly (`read_indented`),
if no object in it has two fields of one name and no integer has more digits than are read
(`IsReadable`).  `IsReadBack` is the statement for one value inside of a text: the reader stops
right behind it.  Items and fields are read one after the other, each with less fuel than the one
before.
-/

namespace GrowthGrammar.Json

open GrowthGrammar.Number GrowthGrammar.Text

/-- The value can be written and read: fields of one object have different names, and integers have
no more digits than are read. -/
inductive IsReadable : Json → Prop
  | null : IsReadable null
  | bool (b : Bool) : IsReadable (bool b)
  | integer {n : ℤ} (h : digitCount n.natAbs ≤ digitLimit) : IsReadable (integer n)
  | double (x : Float) : IsReadable (double x)
  | string (s : String) : IsReadable (string s)
  | array {items : List Json} (h : ∀ v ∈ items, IsReadable v) : IsReadable (array items)
  | object {fields : List (String × Json)} (names : (Entries.names fields).Nodup)
      (h : ∀ f ∈ fields, IsReadable f.2) : IsReadable (object fields)

/-! ## The first character of a value -/

/-- The characters with which numbers and words begin. -/
def scalarHeads : List Char :=
  ['-', '0', '1', '2', '3', '4', '5', '6', '7', '8', '9', 'n', 't', 'f', 'N', 'I']

/-- The characters with which values begin. -/
def valueHeads : List Char :=
  '"' :: '[' :: '{' :: scalarHeads

/-- What holds of the characters with which values begin, one by one, holds of a member. -/
theorem of_mem_valueHeads {P : Char → Prop} [DecidablePred P] (h : valueHeads.all (P ·) = true)
    {c : Char} (hc : c ∈ valueHeads) : P c :=
  of_decide_eq_true (List.all_eq_true.1 h c hc)

theorem mem_valueHeads {c : Char} (h : c ∈ scalarHeads) : c ∈ valueHeads :=
  List.mem_cons_of_mem _ (List.mem_cons_of_mem _ (List.mem_cons_of_mem _ h))

theorem mem_scalarHeads_of_isDigit {c : Char} (h : c.isDigit = true) : c ∈ scalarHeads :=
  of_isDigit (by decide) h

theorem exists_head_intDigits (n : ℤ) : ∃ c s, intDigits n = c :: s ∧ c ∈ scalarHeads := by
  obtain ⟨d, f, hdigits⟩ := List.exists_cons_of_ne_nil (natDigits_ne_nil n.natAbs)
  unfold intDigits
  split_ifs
  · exact ⟨'-', _, rfl, by decide⟩
  · exact ⟨d, f, hdigits,
      mem_scalarHeads_of_isDigit (isDigit_of_mem_natDigits (hdigits ▸ List.mem_cons_self))⟩

theorem exists_head_dataChars (x : Float) :
    ∃ c s, Layout.data.chars x = c :: s ∧ c ∈ scalarHeads := by
  by_cases h : magnitude x < infinityMagnitude
  · obtain ⟨w, -, -, -, htext⟩ := dataChars_finite h
    obtain ⟨d, f, hfront⟩ := List.exists_cons_of_ne_nil w.front_ne_nil
    have hd : d.isDigit = true := w.front_digits d (hfront ▸ List.mem_cons_self)
    rw [htext]
    cases isNegative x with
    | true => exact ⟨'-', w.chars, rfl, by decide⟩
    | false =>
      refine ⟨d, f ++ w.tailChars, ?_, mem_scalarHeads_of_isDigit hd⟩
      rw [if_neg Bool.false_ne_true, List.nil_append, Numeral.chars, hfront, List.cons_append]
  · rcases parts_of_not_finite h with hp | hp
    · simp only [Layout.chars, hp]
      cases isNegative x with
      | true => exact ⟨'-', "Infinity".toList, rfl, by decide⟩
      | false => exact ⟨'I', "nfinity".toList, rfl, by decide⟩
    · simp only [Layout.chars, hp]
      exact ⟨'N', "aN".toList, rfl, by decide⟩

theorem exists_head_indentedChars (level : ℕ) (v : Json) :
    ∃ c s, indentedChars level v = c :: s ∧ c ∈ valueHeads := by
  have hscalar {cs : List Char} (h : ∃ c s, cs = c :: s ∧ c ∈ scalarHeads) :
      ∃ c s, cs = c :: s ∧ c ∈ valueHeads := by
    obtain ⟨c, s, htext, hc⟩ := h
    exact ⟨c, s, htext, mem_valueHeads hc⟩
  have hbracket : '[' ∈ valueHeads := by decide
  have hbrace : '{' ∈ valueHeads := by decide
  cases v with
  | null => exact ⟨'n', "ull".toList, by rw [indentedChars]; rfl, by decide⟩
  | bool b =>
    cases b with
    | true => exact ⟨'t', "rue".toList, by rw [indentedChars]; rfl, by decide⟩
    | false => exact ⟨'f', "alse".toList, by rw [indentedChars]; rfl, by decide⟩
  | integer n =>
    rw [indentedChars]
    exact hscalar (exists_head_intDigits n)
  | double x =>
    rw [indentedChars]
    exact hscalar (exists_head_dataChars x)
  | string s => exact ⟨'"', _, by rw [indentedChars]; rfl, by decide⟩
  | array items =>
    cases items with
    | nil => exact ⟨'[', _, by rw [indentedChars], hbracket⟩
    | cons v r => exact ⟨'[', _, by rw [indentedChars], hbracket⟩
  | object fields =>
    cases fields with
    | nil => exact ⟨'{', _, by rw [indentedChars], hbrace⟩
    | cons f r => exact ⟨'{', _, by rw [indentedChars], hbrace⟩

/-! ## Blanks -/

theorem skipSpace_newline (level : ℕ) (r : List Char) :
    skipSpace (newline level ++ r) = skipSpace r := by
  have hspace : isSpace ' ' = true := rfl
  have hblanks (n : ℕ) : skipSpace (List.replicate n ' ' ++ r) = skipSpace r := by
    induction n with
    | zero => rfl
    | succ n ih =>
      rw [List.replicate_succ, List.cons_append, skipSpace, List.dropWhile_cons_of_pos hspace]
      exact ih
  exact hblanks (2 * level)

theorem skipSpace_cons {c : Char} (h : isSpace c = false) (r : List Char) :
    skipSpace (c :: r) = c :: r :=
  List.dropWhile_cons_of_neg (by rw [h]; exact Bool.false_ne_true)

theorem endsNumber_newline (level : ℕ) (r : List Char) : EndsNumber (newline level ++ r) :=
  endsNumber_cons (by decide) _

/-- No blank stands in front of a value. -/
theorem skipSpace_indentedChars (level : ℕ) (v : Json) (r : List Char) :
    skipSpace (indentedChars level v ++ r) = indentedChars level v ++ r := by
  obtain ⟨c, s, htext, hc⟩ := exists_head_indentedChars level v
  have hspace : isSpace c = false :=
    of_mem_valueHeads (P := fun c => isSpace c = false) (by decide) hc
  rw [htext, List.cons_append, skipSpace_cons hspace]

/-! ## Values -/

/-- Where the value stands in front of what does not go on with it, the reader reads the value and
stops behind it. -/
def IsReadBack (v : Json) : Prop :=
  ∀ (level fuel : ℕ) (r : List Char), EndsNumber r → (indentedChars level v).length < fuel →
    readValue fuel (indentedChars level v ++ r) = .ok (v, r)

/-- A text that begins a number or a word is read as one. -/
theorem readValue_scalar {c : Char} (hc : c ∈ scalarHeads) (fuel : ℕ) (s : List Char) :
    readValue (fuel + 1) (c :: s) = readScalar (c :: s) := by
  have hheads : scalarHeads.all (fun c => c ≠ '"' ∧ c ≠ '[' ∧ c ≠ '\x7b') = true := by decide
  obtain ⟨hquote, hbracket, hbrace⟩ := of_decide_eq_true (List.all_eq_true.1 hheads c hc)
  rw [readValue]
  · rintro ⟨⟩
  · rintro t ht
    exact hquote (List.cons.inj ht).1
  · rintro t ht
    exact hbracket (List.cons.inj ht).1
  · rintro t ht
    exact hbrace (List.cons.inj ht).1

theorem IsReadBack.of_scalar {v : Json} {cs : List Char}
    (htext : ∀ level, indentedChars level v = cs) (hhead : ∃ c s, cs = c :: s ∧ c ∈ scalarHeads)
    (hread : ∀ r, EndsNumber r → readScalar (cs ++ r) = .ok (v, r)) : IsReadBack v := by
  intro level fuel r hr hfuel
  obtain ⟨c, s, rfl, hc⟩ := hhead
  rw [htext] at hfuel ⊢
  cases fuel with
  | zero => exact absurd hfuel (Nat.not_lt_zero _)
  | succ fuel =>
    rw [List.cons_append, readValue_scalar hc, ← List.cons_append]
    exact hread r hr

theorem isReadBack_string (s : String) : IsReadBack (string s) := by
  intro level fuel r hr hfuel
  cases fuel with
  | zero => exact absurd hfuel (Nat.not_lt_zero _)
  | succ fuel =>
    have htext : indentedChars level (string s) ++ r =
        '"' :: (s.toList.flatMap stringChar ++ '"' :: r) := by
      simp [indentedChars, stringChars]
    rw [htext, readValue]
    dsimp only
    rw [readString_flatMap]
    simp [Except.map]

/-! ## Items -/

/-- What follows an item: the other items, or nothing. -/
def itemsBehind (level : ℕ) : List Json → List Char
  | [] => []
  | v :: vs => ',' :: indentedItems level (v :: vs)

theorem indentedItems_cons (level : ℕ) (v : Json) (vs : List Json) :
    indentedItems level (v :: vs) =
      newline level ++ (indentedChars level v ++ itemsBehind level vs) := by
  cases vs with
  | nil => rw [indentedItems, itemsBehind, List.append_nil]
  | cons w vs => rw [indentedItems, itemsBehind, List.append_assoc]

section

variable {fuel : ℕ} {cs r t : List Char} {v : Json} (hvalue : readValue fuel cs = .ok (v, r))

include hvalue

theorem readItems_last (hr : skipSpace r = ']' :: t) :
    readItems (fuel + 1) cs = .ok ([v], t) := by
  rw [readItems, hvalue]
  simp only [hr]

theorem readItems_next (hr : skipSpace r = ',' :: t) {vs : List Json} {u : List Char}
    (hitems : readItems fuel (skipSpace t) = .ok (vs, u)) :
    readItems (fuel + 1) cs = .ok (v :: vs, u) := by
  rw [readItems, hvalue]
  simp only [hr, hitems]
  rfl

end

theorem readItems_indentedItems {vs : List Json} (h : ∀ v ∈ vs, IsReadBack v) (hne : vs ≠ [])
    (level outer fuel : ℕ) (r : List Char) (hfuel : (indentedItems level vs).length < fuel) :
    readItems fuel (skipSpace (indentedItems level vs ++ (newline outer ++ ']' :: r))) =
      .ok (vs, r) := by
  induction vs generalizing fuel with
  | nil => exact absurd rfl hne
  | cons v vs ih =>
    have hv := h v List.mem_cons_self
    rw [indentedItems_cons] at hfuel ⊢
    simp only [List.length_append, newline, List.length_cons] at hfuel
    obtain ⟨fuel, rfl⟩ := Nat.exists_eq_succ_of_ne_zero (Nat.ne_zero_of_lt hfuel)
    rw [List.append_assoc, skipSpace_newline, List.append_assoc, skipSpace_indentedChars]
    cases vs with
    | nil =>
      have hvalue := hv level fuel _ (endsNumber_newline outer (']' :: r)) (by omega)
      refine readItems_last hvalue ?_
      rw [skipSpace_newline, skipSpace_cons rfl]
    | cons w vs =>
      simp only [itemsBehind, List.length_cons] at hfuel
      have hitems := ih (fun u hu => h u (List.mem_cons_of_mem _ hu)) (by simp) fuel (by omega)
      have hvalue := hv level fuel (',' :: (indentedItems level (w :: vs) ++
        (newline outer ++ ']' :: r))) (endsNumber_cons (by decide) _) (by omega)
      exact readItems_next hvalue (skipSpace_cons rfl _) hitems

/-! ## Fields -/

/-- What follows a field: the other fields, or nothing. -/
def fieldsBehind (level : ℕ) : List (String × Json) → List Char
  | [] => []
  | f :: fs => ',' :: indentedFields level (f :: fs)

theorem indentedFields_cons (level : ℕ) (n : String) (v : Json) (fs : List (String × Json)) :
    indentedFields level ((n, v) :: fs) =
      newline level ++ (stringChars n ++ ':' :: ' ' ::
        (indentedChars level v ++ fieldsBehind level fs)) := by
  cases fs with
  | nil => simp [indentedFields, fieldsBehind]
  | cons f fs => simp [indentedFields, fieldsBehind]

section

variable {fuel : ℕ} {done : List (String × Json)} {n : String} {cs r t : List Char} {v : Json}
  (hvalue : readValue fuel (skipSpace cs) = .ok (v, r))

theorem stringChars_append (n : String) (r : List Char) :
    stringChars n ++ r = '"' :: (n.toList.flatMap stringChar ++ '"' :: r) := by
  simp [stringChars]

theorem skipSpace_colon (r : List Char) : skipSpace (':' :: r) = ':' :: r :=
  skipSpace_cons rfl r

include hvalue

theorem readFields_last (hr : skipSpace r = '}' :: t) :
    readFields (fuel + 1) done (stringChars n ++ ':' :: cs) = .ok (Entries.put n v done, t) := by
  rw [stringChars_append, readFields]
  simp only [readString_flatMap, skipSpace_colon, String.ofList_toList, hvalue, hr]

theorem readFields_next (hr : skipSpace r = ',' :: t) :
    readFields (fuel + 1) done (stringChars n ++ ':' :: cs) =
      readFields fuel (Entries.put n v done) (skipSpace t) := by
  rw [stringChars_append, readFields]
  simp only [readString_flatMap, skipSpace_colon, String.ofList_toList, hvalue, hr]

end

theorem readFields_indentedFields {fs : List (String × Json)} (h : ∀ f ∈ fs, IsReadBack f.2)
    (hne : fs ≠ []) (done : List (String × Json)) (hnames : (Entries.names (done ++ fs)).Nodup)
    (level outer fuel : ℕ) (r : List Char) (hfuel : (indentedFields level fs).length < fuel) :
    readFields fuel done (skipSpace (indentedFields level fs ++ (newline outer ++ '}' :: r))) =
      .ok (done ++ fs, r) := by
  induction fs generalizing fuel done with
  | nil => exact absurd rfl hne
  | cons f fs ih =>
    obtain ⟨n, v⟩ := f
    have hv : IsReadBack v := h (n, v) List.mem_cons_self
    have hput : Entries.put n v done = done ++ [(n, v)] := by
      refine Entries.put_of_not_mem (fun hmem => ?_) v
      rw [Entries.names, List.map_append, List.nodup_append] at hnames
      exact hnames.2.2 n hmem n List.mem_cons_self rfl
    have hquote (s : List Char) : skipSpace (stringChars n ++ s) = stringChars n ++ s :=
      skipSpace_cons rfl _
    have hblank (s : List Char) : skipSpace (' ' :: (indentedChars level v ++ s)) =
        indentedChars level v ++ s :=
      (List.dropWhile_cons_of_pos rfl).trans (skipSpace_indentedChars level v s)
    rw [indentedFields_cons] at hfuel ⊢
    simp only [List.length_append, newline, List.length_cons] at hfuel
    obtain ⟨fuel, rfl⟩ := Nat.exists_eq_succ_of_ne_zero (Nat.ne_zero_of_lt hfuel)
    rw [List.append_assoc, skipSpace_newline, List.append_assoc, hquote]
    simp only [List.cons_append, List.append_assoc]
    cases fs with
    | nil =>
      have hvalue := hv level fuel _ (endsNumber_newline outer ('}' :: r)) (by omega)
      rw [← hblank] at hvalue
      rw [← hput]
      refine readFields_last hvalue ?_
      rw [skipSpace_newline, skipSpace_cons rfl]
    | cons g fs =>
      simp only [fieldsBehind, List.length_cons] at hfuel
      have hassoc : done ++ (n, v) :: g :: fs = done ++ [(n, v)] ++ g :: fs := by simp
      have hvalue := hv level fuel (',' :: (indentedFields level (g :: fs) ++
        (newline outer ++ '}' :: r))) (endsNumber_cons (by decide) _) (by omega)
      rw [← hblank] at hvalue
      have hfields := ih (fun u hu => h u (List.mem_cons_of_mem _ hu)) (by simp)
        (done ++ [(n, v)]) (hassoc ▸ hnames) fuel (by omega)
      rw [hassoc, ← hfields, ← hput]
      exact readFields_next hvalue (skipSpace_cons rfl _)

/-! ## Arrays and objects -/

section

variable {fuel : ℕ} {cs s u : List Char} {c : Char} (hcs : skipSpace cs = c :: s)

include hcs

theorem readValue_array (hc : c ≠ ']') {vs : List Json}
    (hitems : readItems fuel (skipSpace cs) = .ok (vs, u)) :
    readValue (fuel + 1) ('[' :: cs) = .ok (array vs, u) := by
  rw [hcs] at hitems
  rw [readValue]
  split
  · rename_i t ht
    exact absurd (List.cons.inj (hcs.symm.trans ht)).1 hc
  · rw [hcs, hitems]
    rfl

theorem readValue_object (hc : c ≠ '}') {fs : List (String × Json)}
    (hfields : readFields fuel [] (skipSpace cs) = .ok (fs, u)) :
    readValue (fuel + 1) ('{' :: cs) = .ok (object fs, u) := by
  rw [hcs] at hfields
  rw [readValue]
  split
  · rename_i t ht
    exact absurd (List.cons.inj (hcs.symm.trans ht)).1 hc
  · rw [hcs, hfields]
    rfl

end

theorem isReadBack_array {items : List Json} (h : ∀ v ∈ items, IsReadBack v) :
    IsReadBack (array items) := by
  intro level fuel r hr hfuel
  obtain ⟨fuel, rfl⟩ := Nat.exists_eq_succ_of_ne_zero (Nat.ne_zero_of_lt hfuel)
  cases items with
  | nil =>
    rw [indentedChars]
    rfl
  | cons v vs =>
    have htext : indentedChars level (array (v :: vs)) ++ r =
        '[' :: (indentedItems (level + 1) (v :: vs) ++ (newline level ++ ']' :: r)) := by
      simp [indentedChars]
    rw [indentedChars, List.length_cons, List.length_append, List.length_append] at hfuel
    have hitems := readItems_indentedItems h (by simp) (level + 1) level fuel r (by omega)
    obtain ⟨c, s, hhead, hc⟩ := exists_head_indentedChars (level + 1) v
    have hcs : skipSpace (indentedItems (level + 1) (v :: vs) ++ (newline level ++ ']' :: r)) =
        c :: (s ++ (itemsBehind (level + 1) vs ++ (newline level ++ ']' :: r))) := by
      rw [indentedItems_cons, List.append_assoc, skipSpace_newline, List.append_assoc,
        skipSpace_indentedChars, hhead, List.cons_append]
    rw [htext]
    exact readValue_array hcs (of_mem_valueHeads (P := (· ≠ ']')) (by decide) hc) hitems

theorem isReadBack_object {fields : List (String × Json)} (hnames : (Entries.names fields).Nodup)
    (h : ∀ f ∈ fields, IsReadBack f.2) : IsReadBack (object fields) := by
  intro level fuel r hr hfuel
  obtain ⟨fuel, rfl⟩ := Nat.exists_eq_succ_of_ne_zero (Nat.ne_zero_of_lt hfuel)
  cases fields with
  | nil =>
    rw [indentedChars]
    rfl
  | cons f fs =>
    have htext : indentedChars level (object (f :: fs)) ++ r =
        '{' :: (indentedFields (level + 1) (f :: fs) ++ (newline level ++ '}' :: r)) := by
      simp [indentedChars]
    rw [indentedChars, List.length_cons, List.length_append, List.length_append] at hfuel
    have hfields := readFields_indentedFields h (by simp) [] hnames (level + 1) level fuel r
      (by omega)
    have hcs : ∃ s, skipSpace
        (indentedFields (level + 1) (f :: fs) ++ (newline level ++ '}' :: r)) = '"' :: s := by
      rw [indentedFields_cons, List.append_assoc, skipSpace_newline]
      exact ⟨_, skipSpace_cons rfl _⟩
    obtain ⟨s, hcs⟩ := hcs
    rw [htext]
    exact readValue_object hcs (by decide) hfields

theorem IsReadable.isReadBack {v : Json} (h : IsReadable v) : IsReadBack v := by
  induction h with
  | null =>
    exact .of_scalar (fun level => by rw [indentedChars]; rfl) ⟨'n', "ull".toList, rfl, by decide⟩
      fun r _ => rfl
  | bool b =>
    cases b with
    | true =>
      exact .of_scalar (fun level => by rw [indentedChars]; rfl) ⟨'t', "rue".toList, rfl, by decide⟩
        fun r _ => rfl
    | false =>
      exact .of_scalar (fun level => by rw [indentedChars]; rfl)
        ⟨'f', "alse".toList, rfl, by decide⟩ fun r _ => rfl
  | integer hn =>
    exact .of_scalar (fun level => by rw [indentedChars]) (exists_head_intDigits _)
      fun r hr => readScalar_intDigits hn hr
  | double x =>
    exact .of_scalar (fun level => by rw [indentedChars]) (exists_head_dataChars x)
      fun r hr => readScalar_dataChars x hr
  | string s => exact isReadBack_string s
  | array _ ih => exact isReadBack_array ih
  | object names _ ih => exact isReadBack_object names ih

/-! ## Carriage returns -/

theorem return_not_mem_stringChars (s : String) : '\r' ∉ stringChars s := by
  have hhex : ∀ n < 32, '\r' ∉ hexDigits 4 n := by decide
  have hchar (c : Char) : '\r' ∉ stringChar c := by
    unfold stringChar
    split_ifs with h1 h2 h3 h4 h5 h6 h7
    · rcases h1 with rfl | rfl <;> decide
    · decide
    · decide
    · decide
    · decide
    · decide
    · simp [hhex c.toNat h7]
    · simpa using Ne.symm h3
  simp [stringChars, hchar]

theorem return_not_mem_dataChars (x : Float) : '\r' ∉ Layout.data.chars x := by
  have halphabet : '\r' ∉ numberAlphabet := by decide
  by_cases h : magnitude x < infinityMagnitude
  · obtain ⟨w, -, -, -, htext⟩ := dataChars_finite h
    have hw : '\r' ∉ w.chars := fun hc => halphabet (w.mem_numberAlphabet hc)
    rw [htext]
    cases isNegative x <;> simp [hw]
  · rcases parts_of_not_finite h with hp | hp
    · simp only [Layout.chars, hp]
      cases isNegative x <;> decide
    · simp only [Layout.chars, hp]
      decide

theorem return_not_mem_intDigits (n : ℤ) : '\r' ∉ intDigits n := by
  have hdigits : '\r' ∉ natDigits n.natAbs := by
    intro h
    have := isDigit_of_mem_natDigits h
    revert this
    decide
  unfold intDigits
  split_ifs <;> simp [hdigits]

theorem return_not_mem_newline (level : ℕ) : '\r' ∉ newline level := by
  simp [newline]

theorem return_not_mem_indentedItems {level : ℕ} {vs : List Json}
    (h : ∀ v ∈ vs, '\r' ∉ indentedChars level v) : '\r' ∉ indentedItems level vs := by
  induction vs with
  | nil => simp [indentedItems]
  | cons v vs ih =>
    have hv := h v List.mem_cons_self
    have hvs := ih fun w hw => h w (List.mem_cons_of_mem _ hw)
    have hbehind : '\r' ∉ itemsBehind level vs := by
      cases vs with
      | nil => simp [itemsBehind]
      | cons w vs => simp [itemsBehind, hvs]
    simp [indentedItems_cons, return_not_mem_newline, hv, hbehind]

theorem return_not_mem_indentedFields {level : ℕ} {fs : List (String × Json)}
    (h : ∀ f ∈ fs, '\r' ∉ indentedChars level f.2) : '\r' ∉ indentedFields level fs := by
  induction fs with
  | nil => simp [indentedFields]
  | cons f fs ih =>
    obtain ⟨n, v⟩ := f
    have hv : '\r' ∉ indentedChars level v := h (n, v) List.mem_cons_self
    have hfs := ih fun g hg => h g (List.mem_cons_of_mem _ hg)
    have hbehind : '\r' ∉ fieldsBehind level fs := by
      cases fs with
      | nil => simp [fieldsBehind]
      | cons g fs => simp [fieldsBehind, hfs]
    simp [indentedFields_cons, return_not_mem_newline, return_not_mem_stringChars, hv, hbehind]

/-- A value that can be read again is written without a carriage return. -/
theorem IsReadable.return_not_mem {v : Json} (h : IsReadable v) (level : ℕ) :
    '\r' ∉ indentedChars level v := by
  induction h generalizing level with
  | null =>
    rw [indentedChars]
    decide
  | bool b =>
    rw [indentedChars]
    cases b <;> decide
  | @integer n =>
    rw [indentedChars]
    exact return_not_mem_intDigits n
  | double x =>
    rw [indentedChars]
    exact return_not_mem_dataChars x
  | string s =>
    rw [indentedChars]
    exact return_not_mem_stringChars s
  | @array items _ ih =>
    cases items with
    | nil => simp [indentedChars]
    | cons v vs =>
      have hitems := return_not_mem_indentedItems fun w hw => ih w hw (level + 1)
      simp [indentedChars, hitems, return_not_mem_newline]
  | @object fields _ _ ih =>
    cases fields with
    | nil => simp [indentedChars]
    | cons f fs =>
      have hfields := return_not_mem_indentedFields fun g hg => ih g hg (level + 1)
      simp [indentedChars, hfields, return_not_mem_newline]

/-! ## Texts -/

/-- The value that was written, with a newline behind it, is the value that is read. -/
theorem read_indented {v : Json} (h : IsReadable v) :
    read (unifyNewlines (v.indented ++ "\n").toList) = .ok v := by
  have htext : (v.indented ++ "\n").toList = indentedChars 0 v ++ ['\n'] := by
    rw [String.toList_append, indented, String.toList_ofList]
    rfl
  have hreturn : '\r' ∉ indentedChars 0 v ++ ['\n'] := by
    simp [h.return_not_mem 0]
  have hmark : (indentedChars 0 v ++ ['\n']).head? ≠ some '\uFEFF' := by
    obtain ⟨c, s, hcs, hc⟩ := exists_head_indentedChars 0 v
    rw [hcs]
    simpa using of_mem_valueHeads (P := (· ≠ '\uFEFF')) (by decide) hc
  have hvalue := h.isReadBack 0 ((indentedChars 0 v ++ ['\n']).length + 1) ['\n']
    (endsNumber_cons (by decide) []) (by simp)
  have hend : skipSpace ['\n'] = [] := rfl
  rw [htext, unifyNewlines_of_no_return hreturn, read, readText, if_neg hmark,
    skipSpace_indentedChars, hvalue]
  simp only [hend]
  rfl

end GrowthGrammar.Json
