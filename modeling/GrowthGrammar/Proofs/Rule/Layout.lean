import GrowthGrammar.Proofs.Description.Keywords
import GrowthGrammar.Proofs.Expression.Blanks
import GrowthGrammar.Proofs.Growth.Globals
import GrowthGrammar.Proofs.Rule.ParameterName
import GrowthGrammar.Proofs.Text.Arrow
import GrowthGrammar.Proofs.Word.Brackets
import GrowthGrammar.Proofs.Word.Names

/-!
# Written rules

A rule is written as `Name(p,q): condition --> R(e,f); S` (`Rule.chars`), and `Rule.LaidOut` allows
more blanks around each of its parts.  Main statement: the rules that are read are `WellFormed`, a
well-formed rule is read back from every layout of its parts, and so a rule that is read is read back
from its text (`Rule.read_laidOut`).
-/

namespace GrowthGrammar

open Expression Text

/-! ## Well-formed rules -/

/-- The quantity is one that a text between brackets and commas may be read as. -/
structure Quantity.IsArgument (q : Quantity) : Prop where
  read : Quantity.read q.text.toList = .ok q
  argument : IsArgumentFrom 0 q.text.toList
  semicolon : ';' ∉ q.text.toList
  noArrow : ArrowFree q.text.toList

/-- The successor has a name that readers give, and its parameters are arguments. -/
structure Template.WellFormed (t : Template) : Prop where
  name : IsSymbolName t.name
  noArrow : ArrowFree t.name.toList
  parameters : ∀ q ∈ t.parameters, q.IsArgument

/-- The condition is one that a text without an arrow is read as. -/
structure Condition.WellFormed (c : Condition) : Prop where
  read : Condition.read c.text.toList = .ok c
  noArrow : ArrowFree c.text.toList

/-- The rule has one word for its name, different names for its parameters, and a condition and
successors that may stand in a rule. -/
structure Rule.WellFormed (r : Rule) : Prop where
  name_ne_nil : r.name.toList ≠ []
  name_blank : ∀ c ∈ r.name.toList, isBlank c = false
  name_marks : '(' ∉ r.name.toList ∧ ':' ∉ r.name.toList
  name_noArrow : ArrowFree r.name.toList
  parameters : ∀ p ∈ r.parameters, isVariableName p.toList = true
  nodup : r.parameters.Nodup
  condition : ∀ c, r.condition = some c → c.WellFormed
  successors : ∀ t ∈ r.successors, t.WellFormed

/-! ## Layouts -/

/-- The text is a part with blanks around it. -/
def Padded (part cs : List Char) : Prop :=
  ∃ l t, isBlankText l = true ∧ isBlankText t = true ∧ cs = l ++ part ++ t

/-- The text is a module of this name with these arguments, with blanks around each of them. -/
inductive ModuleLaidOut (name : List Char) : List (List Char) → List Char → Prop
  | bare {head : List Char} (hname : Padded name head) : ModuleLaidOut name [] head
  | brackets {arguments pieces : List (List Char)} {head tail : List Char} (hne : arguments ≠ [])
      (hname : Padded name head) (harguments : List.Forall₂ Padded arguments pieces)
      (htail : isBlankText tail = true) :
      ModuleLaidOut name arguments (head ++ '(' :: ([','].intercalate pieces ++ ')' :: tail))

/-- The text is the condition of a rule behind a colon, with blanks around it, or nothing. -/
inductive ConditionLaidOut : Option Condition → List Char → Prop
  | none : ConditionLaidOut none []
  | some {c : Condition} {cs : List Char} (h : Padded c.text.toList cs) :
      ConditionLaidOut (some c) (':' :: cs)

/-- The text is a successor, with blanks around its parts. -/
def Template.LaidOut (t : Template) (cs : List Char) : Prop :=
  ModuleLaidOut t.name.toList (t.parameters.map fun q => q.text.toList) cs

/-- The text is successors between semicolons, with blanks around their parts. -/
inductive SuccessorsLaidOut : List Template → List Char → Prop
  | none {cs : List Char} (h : isBlankText cs = true) : SuccessorsLaidOut [] cs
  | some {ts : List Template} {pieces : List (List Char)} (hne : ts ≠ [])
      (h : List.Forall₂ Template.LaidOut ts pieces) :
      SuccessorsLaidOut ts ([';'].intercalate pieces)

/-- The text is a rule, with blanks around its parts. -/
def Rule.LaidOut (r : Rule) (cs : List Char) : Prop :=
  ∃ head condition successors,
    ModuleLaidOut r.name.toList (r.parameters.map String.toList) head ∧
      ConditionLaidOut r.condition condition ∧ SuccessorsLaidOut r.successors successors ∧
      cs = head ++ condition ++ arrow ++ successors

/-- The text of a successor. -/
def Template.chars (t : Template) : List Char :=
  writtenSymbol t.name (t.parameters.map fun q => q.text.toList)

/-- The text of a condition behind the head of its rule. -/
def conditionChars : Option Condition → List Char
  | none => []
  | some c => ':' :: ' ' :: c.text.toList

/-- The text of a rule. -/
def Rule.chars (r : Rule) : List Char :=
  writtenSymbol r.name (r.parameters.map String.toList) ++ conditionChars r.condition ++
    ' ' :: (arrow ++ ' ' :: joinedSymbols (r.successors.map Template.chars))

/-! ## Parts with blanks around them -/

section Padded

variable {part cs l t : List Char}

theorem padded_self (cs : List Char) : Padded cs cs :=
  ⟨[], [], rfl, rfl, by simp⟩

theorem Padded.blanks (h : Padded part cs) (hl : isBlankText l = true)
    (ht : isBlankText t = true) : Padded part (l ++ cs ++ t) := by
  obtain ⟨l', t', hl', ht', rfl⟩ := h
  refine ⟨l ++ l', t' ++ t, ?_, ?_, by simp only [List.append_assoc]⟩
  · rw [isBlankText_append, hl, hl']
    rfl
  · rw [isBlankText_append, ht, ht']
    rfl

theorem Padded.trim_eq (h : Padded part cs) : trim cs = trim part := by
  obtain ⟨l, t, hl, ht, rfl⟩ := h
  exact trim_blanks hl ht part

theorem Padded.not_mem (h : Padded part cs) {c : Char} (hc : isBlank c = false) (hpart : c ∉ part) :
    c ∉ cs := by
  obtain ⟨l, t, hl, ht, rfl⟩ := h
  simp only [List.mem_append, not_or]
  exact ⟨⟨not_mem_of_isBlankText hl hc, hpart⟩, not_mem_of_isBlankText ht hc⟩

theorem Padded.arrowFree (h : Padded part cs) (hpart : ArrowFree part) : ArrowFree cs := by
  obtain ⟨l, t, hl, ht, rfl⟩ := h
  exact (arrowFree_blanks hl ht part).2 hpart

theorem Padded.isArgumentFrom {depth : ℕ} (h : Padded part cs) (hpart : IsArgumentFrom depth part) :
    IsArgumentFrom depth cs := by
  obtain ⟨l, t, hl, ht, rfl⟩ := h
  exact (isArgumentFrom_blanks hl ht part).2 hpart

theorem Padded.isBlankText (h : Padded part cs) (hpart : isBlankText part = false) :
    Text.isBlankText cs = false := by
  obtain ⟨l, t, hl, ht, rfl⟩ := h
  rw [isBlankText_append, isBlankText_append, hpart, Bool.and_false, Bool.false_and]

end Padded

theorem forall_of_forall₂ {α β : Type} {R : α → β → Prop} {P : β → Prop} {xs : List α}
    {ys : List β} (h : List.Forall₂ R xs ys) (hP : ∀ x ∈ xs, ∀ y, R x y → P y) :
    ∀ y ∈ ys, P y := by
  induction h with
  | nil => exact fun y hy => absurd hy List.not_mem_nil
  | cons hxy h ih =>
    refine List.forall_mem_cons.2 ⟨hP _ List.mem_cons_self _ hxy, ih fun x hx => ?_⟩
    exact hP x (List.mem_cons_of_mem _ hx)

/-! ## Modules -/

namespace ModuleLaidOut

variable {name cs : List Char} {arguments : List (List Char)}

theorem not_mem (h : ModuleLaidOut name arguments cs) {c : Char} (hc : isBlank c = false)
    (hmarks : c ∉ ['(', ',', ')']) (hname : c ∉ name) (harguments : ∀ a ∈ arguments, c ∉ a) :
    c ∉ cs := by
  simp only [List.mem_cons, List.not_mem_nil, or_false, not_or] at hmarks
  obtain ⟨hopen, hcomma, hclose⟩ := hmarks
  cases h with
  | bare hhead => exact hhead.not_mem hc hname
  | brackets hne hhead hpieces htail =>
    have hinner := not_mem_intercalate hcomma
      (forall_of_forall₂ hpieces fun a ha p hp => hp.not_mem hc (harguments a ha))
    simp only [List.mem_append, List.mem_cons, not_or]
    exact ⟨hhead.not_mem hc hname, hopen, hinner, hclose, not_mem_of_isBlankText htail hc⟩

theorem arrowFree (h : ModuleLaidOut name arguments cs) (hname : ArrowFree name)
    (harguments : ∀ a ∈ arguments, ArrowFree a) : ArrowFree cs := by
  cases h with
  | bare hhead => exact hhead.arrowFree hname
  | brackets hne hhead hpieces htail =>
    have hinner := arrowFree_intercalate (c := ',') (by decide)
      (forall_of_forall₂ hpieces fun a ha p hp => hp.arrowFree (harguments a ha))
    rw [arrowFree_append_cons (by decide), arrowFree_append_cons (by decide)]
    exact ⟨hhead.arrowFree hname, hinner, arrowFree_of_isBlankText htail⟩

/-- A module is parted into its name and its arguments, with the blanks around these. -/
theorem splitHead_eq (h : ModuleLaidOut name arguments cs) (kind : GrammarKind)
    (hname : '(' ∉ name) (htrim : trim name = name)
    (harguments : ∀ a ∈ arguments, IsArgumentFrom 0 a ∧ isBlankText a = false) :
    ∃ inner, splitHead kind cs = .ok (name, inner) ∧
      List.Forall₂ Padded arguments (splitArguments inner) := by
  cases h with
  | bare hhead =>
    refine ⟨none, ?_, .nil⟩
    rw [splitHead_of_no_bracket kind (hhead.not_mem rfl hname), hhead.trim_eq, htrim]
  | @brackets _ pieces head tail hne hhead hpieces htail =>
    have hpieces' : ∀ p ∈ pieces, IsArgumentFrom 0 p ∧ isBlankText p = false :=
      forall_of_forall₂ hpieces fun a ha p hp =>
        ⟨hp.isArgumentFrom (harguments a ha).1, hp.isBlankText (harguments a ha).2⟩
    have hne' : pieces ≠ [] := by
      rintro rfl
      exact hne (List.forall₂_nil_right_iff.1 hpieces)
    refine ⟨some ([','].intercalate pieces), ?_, ?_⟩
    · rw [splitHead_arguments kind (hhead.not_mem rfl hname) (fun p hp => (hpieces' p hp).1) htail,
        hhead.trim_eq, htrim]
    · rw [splitArguments_joined hne' hpieces']
      exact hpieces

/-- The text of a module is laid out, also with blanks around it. -/
theorem writtenSymbol (name : String) (arguments : List (List Char)) {l t : List Char}
    (hl : isBlankText l = true) (ht : isBlankText t = true) :
    ModuleLaidOut name.toList arguments (l ++ GrowthGrammar.writtenSymbol name arguments ++ t) := by
  cases arguments with
  | nil => exact .bare ((padded_self _).blanks hl ht)
  | cons a r =>
    have hself : List.Forall₂ Padded (a :: r) (a :: r) :=
      List.forall₂_same.2 fun b _ => padded_self b
    have hname := (padded_self name.toList).blanks hl (t := []) rfl
    have htext : l ++ GrowthGrammar.writtenSymbol name (a :: r) ++ t =
        l ++ name.toList ++ [] ++ '(' :: ([','].intercalate (a :: r) ++ ')' :: t) := by
      simp [GrowthGrammar.writtenSymbol]
    rw [htext]
    exact .brackets (List.cons_ne_nil a r) hname hself ht

end ModuleLaidOut

/-! ## Successors -/

namespace Rule

theorem readParameter_of_padded {q : Quantity} (hq : q.IsArgument) {cs : List Char}
    (h : Padded q.text.toList cs) : readParameter cs = .ok q := by
  obtain ⟨l, t, hl, ht, rfl⟩ := h
  rw [readParameter, Quantity.read_blanks hl ht, hq.read]
  rfl

theorem readParameters_of_padded {qs : List Quantity} (hqs : ∀ q ∈ qs, q.IsArgument)
    {pieces : List (List Char)} (h : List.Forall₂ (fun q p => Padded q.text.toList p) qs pieces) :
    pieces.mapM readParameter = .ok qs := by
  induction h with
  | nil => rfl
  | cons hp h ih =>
    obtain ⟨hq, hqs⟩ := List.forall_mem_cons.1 hqs
    rw [List.mapM_cons, readParameter_of_padded hq hp, ih hqs]
    rfl

theorem readSuccessor_of_laidOut {t : Template} (ht : t.WellFormed) {cs : List Char}
    (h : t.LaidOut cs) : readSuccessor cs = .ok (some t) := by
  have harguments : ∀ a ∈ t.parameters.map fun q => q.text.toList,
      IsArgumentFrom 0 a ∧ isBlankText a = false := by
    refine List.forall_mem_map.2 fun q hq => ⟨(ht.parameters q hq).argument, ?_⟩
    obtain ⟨e, he, -⟩ := bind_eq_ok.1 (ht.parameters q hq).read
    exact Expr.not_isBlankText_of_read he
  obtain ⟨inner, hhead, hpieces⟩ :=
    h.splitHead_eq .ruleParameter ht.name.bracket ht.name.trim_eq harguments
  have hparameters := readParameters_of_padded ht.parameters (List.forall₂_map_left_iff.1 hpieces)
  have hne : t.name.toList.isEmpty = false := List.isEmpty_eq_false_iff.2 ht.name.ne_nil
  rw [readSuccessor, hhead, ok_bind]
  simp only [hne, Bool.false_eq_true, if_false, hparameters, ok_bind, String.ofList_toList]
  rfl

theorem semicolon_not_mem_of_laidOut {t : Template} (ht : t.WellFormed) {cs : List Char}
    (h : t.LaidOut cs) : ';' ∉ cs :=
  h.not_mem rfl (by decide) ht.name.semicolon
    (List.forall_mem_map.2 fun q hq => (ht.parameters q hq).semicolon)

theorem readSuccessor_blank {cs : List Char} (h : isBlankText cs = true) :
    readSuccessor cs = .ok none := by
  rw [readSuccessor, splitHead_of_no_bracket _ (not_mem_of_isBlankText h rfl), trim_eq_nil_iff.2 h]
  rfl

theorem readSuccessors_of_laidOut {ts : List Template} (hts : ∀ t ∈ ts, t.WellFormed)
    {cs : List Char} (h : SuccessorsLaidOut ts cs) : readSuccessors cs = .ok ts := by
  cases h with
  | none h =>
    rw [readSuccessors, splitAt_of_not_mem (not_mem_of_isBlankText h rfl), List.mapM_cons,
      readSuccessor_blank h]
    rfl
  | @some _ pieces hne h =>
    have hne' : pieces ≠ [] := by
      rintro rfl
      exact hne (List.forall₂_nil_right_iff.1 h)
    have hsemicolon : ∀ p ∈ pieces, ';' ∉ p :=
      forall_of_forall₂ h fun t ht p hp => semicolon_not_mem_of_laidOut (hts t ht) hp
    have hmapM : pieces.mapM readSuccessor = .ok (ts.map some) := by
      clear hne hne' hsemicolon
      induction h with
      | nil => rfl
      | cons hp h ih =>
        obtain ⟨ht, hts⟩ := List.forall_mem_cons.1 hts
        rw [List.mapM_cons, readSuccessor_of_laidOut ht hp, ih hts]
        rfl
    have hfound : (ts.map some).filterMap id = ts := by simp
    rw [readSuccessors, splitAt_intercalate hne' hsemicolon, hmapM, ok_bind, hfound]
    rfl

theorem arrowFree_of_successorsLaidOut {ts : List Template} (hts : ∀ t ∈ ts, t.WellFormed)
    {cs : List Char} (h : SuccessorsLaidOut ts cs) : ArrowFree cs := by
  cases h with
  | none h => exact arrowFree_of_isBlankText h
  | some hne h =>
    refine arrowFree_intercalate (by decide) (forall_of_forall₂ h fun t ht p hp => ?_)
    exact hp.arrowFree (hts t ht).noArrow
      (List.forall_mem_map.2 fun q hq => ((hts t ht).parameters q hq).noArrow)

/-! ## The left side -/

theorem checkName_of_word {name : List Char} (hne : name ≠ []) (h : ∀ c ∈ name, isBlank c = false)
    (cs : List Char) : checkName cs name = .ok (String.ofList name) := by
  rw [checkName, List.isEmpty_eq_false_iff.2 hne, words_of_no_blank hne h]
  rfl

theorem checkParameters_of_names {names : List String}
    (h : ∀ p ∈ names, isVariableName p.toList = true) (hnodup : names.Nodup) (rule : String) :
    checkParameters rule (names.map String.toList) = .ok names := by
  have hfind : (names.map String.toList).find? (fun p => !isVariableName p) = none := by
    simpa using h
  have hnames : (names.map String.toList).map String.ofList = names := by
    simp [List.map_map, Function.comp_def]
  rw [checkParameters, hfind]
  simp only [hnames, hnodup, if_true]

theorem readCondition_of_laidOut {o : Option Condition} (ho : ∀ c, o = some c → c.WellFormed)
    {cs head : List Char} (h : ConditionLaidOut o cs) (hhead : ':' ∉ head) (rule : String) :
    ∃ condition, cutAt ':' (head ++ cs) = (head, condition) ∧
      readCondition rule condition = .ok o := by
  cases h with
  | none =>
    refine ⟨none, ?_, rfl⟩
    rw [List.append_nil, cutAt_of_not_mem hhead]
  | @some c text htext =>
    have hread : Condition.read text = .ok c := by
      obtain ⟨l, t, hl, ht, rfl⟩ := htext
      rw [Condition.read_blanks hl ht, (ho c rfl).read]
    have hblank : isBlankText text = false := by
      obtain ⟨e, he, -⟩ := bind_eq_ok.1 hread
      exact Expr.not_isBlankText_of_read he
    refine ⟨some text, cutAt_append hhead text, ?_⟩
    rw [readCondition, hblank, hread]
    rfl

theorem arrowFree_of_conditionLaidOut {o : Option Condition} (ho : ∀ c, o = some c → c.WellFormed)
    {cs : List Char} (h : ConditionLaidOut o cs) {head : List Char} (hhead : ArrowFree head) :
    ArrowFree (head ++ cs) := by
  cases h with
  | none => rwa [List.append_nil]
  | some htext =>
    rw [arrowFree_append_cons (by decide)]
    exact ⟨hhead, htext.arrowFree (ho _ rfl).noArrow⟩

theorem splitSides_of_arrowFree {left right : List Char} (hleft : ArrowFree left)
    (hright : ArrowFree right) : splitSides (left ++ arrow ++ right) = .ok (left, right) := by
  rw [splitSides, splitAtArrow_append_arrow hleft, splitAtArrow_of_arrowFree hright]

/-- The name of a parameter is an argument without an arrow and without a blank. -/
theorem argument_of_isVariableName {p : List Char} (h : isVariableName p = true) :
    IsArgumentFrom 0 p ∧ isBlankText p = false ∧ ArrowFree p ∧ trim p = p := by
  obtain ⟨hname, -⟩ := isVariableName_iff.1 h
  have hblank : ∀ c ∈ p, isBlank c = false := fun c hc => isBlank_of_mem_identifier hname hc
  obtain ⟨c, r, rfl⟩ := List.exists_cons_of_ne_nil (ne_nil_of_isIdentifier hname)
  exact ⟨isArgumentFrom_plain fun d hd => not_mem_of_mem_identifier hname (by decide) hd,
    not_isBlankText_of_mem List.mem_cons_self (hblank c List.mem_cons_self),
    arrowFree_of_no_mark fun d hd => not_mem_of_mem_identifier hname (by decide) hd,
    trim_of_no_blank hblank⟩

theorem map_trim_of_padded {arguments pieces : List (List Char)}
    (h : List.Forall₂ Padded arguments pieces) (htrim : ∀ a ∈ arguments, trim a = a) :
    pieces.map trim = arguments := by
  induction h with
  | nil => rfl
  | cons hp h ih =>
    obtain ⟨ha, htrim⟩ := List.forall_mem_cons.1 htrim
    rw [List.map_cons, hp.trim_eq, ha, ih htrim]

/-- A well-formed rule is read back from every layout of its parts. -/
theorem read_of_laidOut {r : Rule} (hr : r.WellFormed) {cs : List Char} (h : r.LaidOut cs) :
    read r.globals cs = .ok r := by
  obtain ⟨head, condition, successors, hhead, hcondition, hsuccessors, rfl⟩ := h
  obtain ⟨hbracket, hcolon⟩ := hr.name_marks
  have hnames : ∀ a ∈ r.parameters.map String.toList,
      IsArgumentFrom 0 a ∧ isBlankText a = false ∧ ArrowFree a ∧ trim a = a :=
    List.forall_mem_map.2 fun p hp => argument_of_isVariableName (hr.parameters p hp)
  have hheadColon : ':' ∉ head := by
    refine hhead.not_mem rfl (by decide) hcolon (List.forall_mem_map.2 fun p hp => ?_)
    exact not_mem_identifier (isVariableName_iff.1 (hr.parameters p hp)).1 rfl
  have hheadArrow : ArrowFree head :=
    hhead.arrowFree hr.name_noArrow fun a ha => (hnames a ha).2.2.1
  have hsides := splitSides_of_arrowFree
    (arrowFree_of_conditionLaidOut hr.condition hcondition hheadArrow)
    (arrowFree_of_successorsLaidOut hr.successors hsuccessors)
  obtain ⟨behind, hcut, hread⟩ :=
    readCondition_of_laidOut hr.condition hcondition hheadColon r.name
  obtain ⟨inner, hinner, hpieces⟩ := hhead.splitHead_eq .ruleParameter hbracket
    (trim_of_no_blank hr.name_blank) fun a ha => ⟨(hnames a ha).1, (hnames a ha).2.1⟩
  have htrim := map_trim_of_padded hpieces fun a ha => (hnames a ha).2.2.2
  rw [read, hsides, ok_bind]
  simp only [hcut, hinner, ok_bind, checkName_of_word hr.name_ne_nil hr.name_blank,
    String.ofList_toList, htrim, checkParameters_of_names hr.parameters hr.nodup, hread,
    readSuccessors_of_laidOut hr.successors hsuccessors]
  rfl

/-! ## What is read -/

theorem isWord_of_checkName {text name : List Char} {s : String} (htrim : trim name = name)
    (h : checkName text name = .ok s) :
    s.toList = name ∧ name ≠ [] ∧ ∀ c ∈ name, isBlank c = false := by
  unfold checkName at h
  split_ifs at h with hempty
  have hne : name ≠ [] := fun hnil => hempty (List.isEmpty_iff.2 hnil)
  split at h
  · cases h
  · rename_i hwords
    obtain rfl := Except.ok.inj h
    refine ⟨String.toList_ofList, hne, not_isBlank_of_word htrim ?_⟩
    match hw : words name with
    | [] => exact Nat.zero_le 1
    | [w] => exact Nat.le_refl 1
    | w :: v :: r => exact absurd hw (hwords w v r)

theorem nodup_of_checkParameters {rule : String} {ps : List (List Char)} {names : List String}
    (h : checkParameters rule ps = .ok names) : names.Nodup := by
  unfold checkParameters at h
  split at h
  · cases h
  · dsimp only at h
    split_ifs at h with hnodup
    rwa [← Except.ok.inj h]

theorem wellFormed_of_readCondition {rule : String} {o : Option (List Char)} {c : Condition}
    (h : readCondition rule o = .ok (some c)) (ho : ∀ cs, o = some cs → ArrowFree cs) :
    c.WellFormed := by
  unfold readCondition at h
  split at h
  · cases h
  · rename_i cs
    split_ifs at h
    · cases h
    · obtain ⟨c', hc', h⟩ := map_eq_ok.1 h
      obtain rfl := Option.some.inj h
      obtain ⟨htext, hread⟩ := Condition.read_text (mapError_eq_ok.1 hc')
      refine ⟨hread, ?_⟩
      rw [htext]
      exact (ho cs rfl).within (infix_trim cs)

theorem isArgument_of_readParameter {cs : List Char} {q : Quantity}
    (h : readParameter cs = .ok q) (hcs : IsArgumentFrom 0 cs) (hsemicolon : ';' ∉ cs)
    (harrow : ArrowFree cs) : q.IsArgument := by
  obtain ⟨htext, hread⟩ := Quantity.read_text (mapError_eq_ok.1 h)
  refine ⟨hread, ?_, ?_, ?_⟩
  · rw [htext]
    exact isArgumentFrom_trim hcs
  · rw [htext]
    exact fun hmem => hsemicolon (mem_of_mem_trim hmem)
  · rw [htext]
    exact harrow.within (infix_trim cs)

theorem wellFormed_of_readSuccessor {piece : List Char} {t : Template}
    (h : readSuccessor piece = .ok (some t)) (hsemicolon : ';' ∉ piece)
    (harrow : ArrowFree piece) : t.WellFormed := by
  have hname := isSymbolName_of_readSuccessor h hsemicolon
  obtain ⟨⟨name, inner⟩, hhead, h⟩ := bind_eq_ok.1 h
  obtain ⟨hstands, harguments⟩ := infix_of_splitHead hhead
  dsimp only at h
  split_ifs at h
  · cases h
  · obtain ⟨parameters, hparameters, h⟩ := bind_eq_ok.1 h
    obtain rfl := Option.some.inj (Except.ok.inj h)
    refine ⟨hname, ?_, fun q hq => ?_⟩
    · rw [String.toList_ofList]
      exact harrow.within hstands
    · obtain ⟨p, hp, hread⟩ := exists_mem_of_mapM hparameters hq
      obtain ⟨hargument, hp⟩ := harguments p hp
      exact isArgument_of_readParameter hread hargument
        (fun hmem => hsemicolon (hp.subset hmem)) (harrow.within hp)

theorem wellFormed_of_readSuccessors {cs : List Char} {ts : List Template}
    (h : readSuccessors cs = .ok ts) (harrow : ArrowFree cs) : ∀ t ∈ ts, t.WellFormed := by
  intro t ht
  obtain ⟨found, hfound, h⟩ := bind_eq_ok.1 h
  obtain rfl := Except.ok.inj h
  obtain ⟨o, ho, rfl⟩ := List.mem_filterMap.1 ht
  obtain ⟨piece, hpiece, hread⟩ := exists_mem_of_mapM hfound ho
  have hstands : piece <:+: cs := by
    rw [← intercalate_splitAt ';' cs]
    exact infix_intercalate hpiece
  exact wellFormed_of_readSuccessor hread (not_mem_of_mem_splitAt hpiece)
    (harrow.within hstands)

theorem wellFormed_of_read {globals : Environment} {cs : List Char} {r : Rule}
    (h : read globals cs = .ok r) : r.WellFormed := by
  obtain ⟨⟨left, right⟩, hsides, h⟩ := bind_eq_ok.1 h
  obtain ⟨⟨name, inner⟩, hhead, h⟩ := bind_eq_ok.1 h
  obtain ⟨name', hname, h⟩ := bind_eq_ok.1 h
  obtain ⟨parameters, hparameters, h⟩ := bind_eq_ok.1 h
  obtain ⟨condition, hcondition, h⟩ := bind_eq_ok.1 h
  obtain ⟨successors, hsuccessors, h⟩ := bind_eq_ok.1 h
  obtain rfl := Except.ok.inj h
  have hpieces := Description.splitSides_eq_ok hsides
  have hleft : ArrowFree left := arrowFree_of_mem_splitAtArrow (by rw [hpieces]; simp)
  have hright : ArrowFree right := arrowFree_of_mem_splitAtArrow (by rw [hpieces]; simp)
  obtain ⟨hcolon, hcut, hbehind⟩ := infix_of_cutAt ':' left
  obtain ⟨htrim, hbracket, -⟩ := splitHead_name hhead
  obtain ⟨hstands, -⟩ := infix_of_splitHead hhead
  obtain ⟨rfl, hne, hblank⟩ := isWord_of_checkName htrim hname
  obtain ⟨rfl, hnames⟩ := eq_of_checkParameters hparameters
  refine ⟨hne, hblank, ⟨hbracket, fun hmem => hcolon (hstands.subset hmem)⟩,
    hleft.within (hstands.trans hcut), ?_, nodup_of_checkParameters hparameters, ?_,
    wellFormed_of_readSuccessors hsuccessors hright⟩
  · intro p hp
    obtain ⟨q, hq, rfl⟩ := List.mem_map.1 hp
    rw [String.toList_ofList]
    exact hnames q hq
  · rintro c rfl
    exact wellFormed_of_readCondition hcondition fun cs hcs => hleft.within (hbehind cs hcs)

/-! ## The text of a rule -/

theorem cons_joinedSymbols {ps : List (List Char)} (hne : ps ≠ []) :
    ' ' :: joinedSymbols ps = [';'].intercalate (ps.map (' ' :: ·)) := by
  induction ps with
  | nil => exact absurd rfl hne
  | cons p ps ih =>
    cases ps with
    | nil => simp [joinedSymbols]
    | cons q ps =>
      have hps := ih (List.cons_ne_nil q ps)
      rw [joinedSymbols] at hps ⊢
      rw [List.intercalate_cons_cons, List.map_cons, List.map_cons, List.intercalate_cons_cons,
        ← List.map_cons, ← hps]
      simp

theorem successorsLaidOut_joinedSymbols (ts : List Template) :
    SuccessorsLaidOut ts (' ' :: joinedSymbols (ts.map Template.chars)) := by
  have hspace : isBlankText [' '] = true := rfl
  cases ts with
  | nil => exact .none hspace
  | cons t ts =>
    rw [cons_joinedSymbols (by simp), List.map_map]
    refine .some (List.cons_ne_nil t ts) (List.forall₂_map_right_iff.2 (List.forall₂_same.2 ?_))
    intro u _
    have hu := ModuleLaidOut.writtenSymbol u.name (u.parameters.map fun q => q.text.toList)
      hspace (t := []) rfl
    rwa [List.append_nil] at hu

/-- The text of a rule is one of its layouts. -/
theorem laidOut_chars (r : Rule) : r.LaidOut r.chars := by
  have hspace : isBlankText [' '] = true := rfl
  have hnil : isBlankText [] = true := rfl
  have hsuccessors := successorsLaidOut_joinedSymbols r.successors
  cases hcondition : r.condition with
  | none =>
    have hhead := ModuleLaidOut.writtenSymbol r.name (r.parameters.map String.toList) hnil hspace
    refine ⟨_, [], _, hhead, ?_, hsuccessors, ?_⟩
    · rw [hcondition]
      exact .none
    · simp [chars, conditionChars, hcondition]
  | some c =>
    have hhead := ModuleLaidOut.writtenSymbol r.name (r.parameters.map String.toList) hnil hnil
    have htext := (padded_self c.text.toList).blanks hspace hspace
    refine ⟨_, ':' :: ([' '] ++ c.text.toList ++ [' ']), _, hhead, ?_, hsuccessors, ?_⟩
    · rw [hcondition]
      exact .some htext
    · simp [chars, conditionChars, hcondition]

/-- A rule that is read is well formed and read back from its text, and a well-formed rule is read
back from every layout of its parts; its text is one of these. -/
theorem read_laidOut (globals : Environment) :
    (∀ cs r, read globals cs = .ok r → r.WellFormed ∧ read globals r.chars = .ok r) ∧
      ∀ r : Rule, r.LaidOut r.chars ∧
        (r.WellFormed → r.globals = globals → ∀ cs, r.LaidOut cs → read globals cs = .ok r) := by
  refine ⟨fun cs r h => ?_, fun r => ⟨laidOut_chars r, ?_⟩⟩
  · have hr := wellFormed_of_read h
    have hglobals : r.globals = globals := globals_of_read h
    exact ⟨hr, hglobals ▸ read_of_laidOut hr (laidOut_chars r)⟩
  · rintro hr rfl cs hcs
    exact read_of_laidOut hr hcs

theorem read_laidOut_halving :
    ∃ r, read .empty "Seg( l )\t:l > 1-->;Seg(l/2); Seg (max( l , 1)/2)".toList = .ok r ∧
      r.chars = "Seg(l): l > 1 --> Seg(l/2); Seg(max( l , 1)/2)".toList ∧ r.WellFormed ∧
      read .empty r.chars = .ok r := by
  have hread : okAnd (fun r => r.chars == "Seg(l): l > 1 --> Seg(l/2); Seg(max( l , 1)/2)".toList)
      (read .empty "Seg( l )\t:l > 1-->;Seg(l/2); Seg (max( l , 1)/2)".toList) = true := by
    decide +kernel
  obtain ⟨r, hr, hchars⟩ := okAnd_iff.1 hread
  obtain ⟨hwellFormed, -⟩ := (read_laidOut .empty).1 _ r hr
  obtain ⟨hlaidOut, hback⟩ := (read_laidOut .empty).2 r
  exact ⟨r, hr, beq_iff_eq.1 hchars, hwellFormed,
    hback hwellFormed (globals_of_read hr) r.chars hlaidOut⟩

end Rule

end GrowthGrammar
