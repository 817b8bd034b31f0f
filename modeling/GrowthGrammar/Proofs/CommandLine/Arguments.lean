import GrowthGrammar.CommandLine.Arguments
import GrowthGrammar.Proofs.Fallible
import GrowthGrammar.Proofs.Number.Digits
import GrowthGrammar.Proofs.Text.Trim

/-!
# Arguments of commands

`expandArguments` asks for a system to be expanded, with a count and with variables, and
`validateArguments` asks for it to be checked.  Main lemmas: the program takes these arguments for
those commands, if the path is not taken for an option (`ofArguments_expandArguments`,
`ofArguments_validateArguments`).
-/

namespace GrowthGrammar.CommandLine

open GrowthGrammar.Number GrowthGrammar.Text

/-- The arguments of options with values, in turn. -/
def optionArguments (options : List (String × String)) : List String :=
  options.flatMap fun o => [o.1, o.2]

/-- The option that gives a count, if there is one. -/
def countOptions (count : Option ℕ) : List (String × String) :=
  count.toList.map fun n => ("--count", String.ofList (natDigits n))

/-- The options that give variables. -/
def varOptions (bindings : List String) : List (String × String) :=
  bindings.map fun b => ("--var", b)

/-- The arguments that ask for a system to be expanded. -/
def expandArguments (path : String) (count : Option ℕ) (bindings : List String) : List String :=
  "expand" :: path :: optionArguments (countOptions count ++ varOptions bindings)

/-- The arguments that ask for a system to be checked. -/
def validateArguments (path : String) (bindings : List String) : List String :=
  "validate" :: path :: optionArguments (varOptions bindings)

/-- The path is taken for the path of a system and not for an option. -/
structure IsOperand (path : String) : Prop where
  ne_separator : path ≠ "--"
  plain : readArgument expandFlags path = .ok .plain

/-! ## Kinds of arguments -/

theorem readArgument_of_head {argument : String} (h : argument.toList.head? ≠ some '-')
    (table : FlagTable) : readArgument table argument = .ok .plain := by
  rw [readArgument, if_pos h]

theorem readArguments_cons {table : FlagTable} {a : String} {k : Reading} (hne : a ≠ "--")
    (h : readArgument table a = .ok k) (r : List String) :
    readArguments table (a :: r) = readArguments table r >>= fun ks => .ok ((a, k) :: ks) := by
  rw [readArguments, if_neg hne, h]
  rfl

theorem ne_separator_of_head {a : String} (h : a.toList.head? ≠ some '-') : a ≠ "--" := by
  rintro rfl
  exact h rfl

/-! ## Arguments that are no options -/

theorem lookup_of_sublist {table table' : FlagTable} (hsub : table'.Sublist table) {name : String}
    (h : table.lookup name = none) : table'.lookup name = none := by
  rw [List.lookup_eq_none_iff] at h ⊢
  exact fun entry hentry => h entry (hsub.subset hentry)

theorem candidates_sublist {table table' : FlagTable} (hsub : table'.Sublist table)
    (cs : List Char) : (candidates table' cs).Sublist (candidates table cs) := by
  unfold candidates
  split
  · exact hsub.filterMap _
  · exact hsub.filterMap _

theorem ne_plain_of_mem_candidates {table : FlagTable} {cs : List Char} {k : String × Reading}
    (h : k ∈ candidates table cs) : k.2 ≠ .plain := by
  unfold candidates at h
  split at h
  · obtain ⟨entry, -, h⟩ := List.mem_filterMap.1 h
    dsimp only at h
    split_ifs at h
    obtain rfl := Option.some.inj h
    rintro ⟨⟩
  · obtain ⟨entry, -, h⟩ := List.mem_filterMap.1 h
    dsimp only at h
    split_ifs at h
    obtain rfl := Option.some.inj h
    rintro ⟨⟩

/-- What is taken for no option is none of the table, with a value behind `=` or without, and is not
short for one. -/
theorem readArgument_eq_plain_iff {table : FlagTable} {argument : String} :
    readArgument table argument = .ok .plain ↔
      argument.toList.head? ≠ some '-' ∨ table.lookup argument = none ∧
        (argument.toList.length = 1 ∨
          ((cutAt '=' argument.toList).2 = none ∨
            table.lookup (String.ofList (cutAt '=' argument.toList).1) = none) ∧
          candidates table argument.toList = [] ∧
          (isNegativeNumber argument.toList || argument.toList.contains ' ') = true) := by
  unfold readArgument
  dsimp only
  by_cases hhead : argument.toList.head? ≠ some '-'
  · simp [hhead]
  rw [if_neg hhead]
  cases hlookup : table.lookup argument with
  | some f => simp [hhead]
  | none =>
    dsimp only
    by_cases hlength : argument.toList.length = 1
    · simp [hlength]
    rw [if_neg hlength]
    split
    · rename_i v f hvalue hfront
      simp [hhead, hlength, hvalue, hfront]
    · rename_i hfront
      have hnone : (cutAt '=' argument.toList).2 = none ∨
          table.lookup (String.ofList (cutAt '=' argument.toList).1) = none := by
        by_contra hsome
        obtain ⟨hv, hf⟩ := not_or.1 hsome
        obtain ⟨v, hv⟩ := Option.ne_none_iff_exists'.1 hv
        obtain ⟨f, hf⟩ := Option.ne_none_iff_exists'.1 hf
        exact hfront v f hv hf
      split
      · rename_i k r hcandidates
        have hr : r ≠ .plain := ne_plain_of_mem_candidates (hcandidates ▸ List.mem_singleton_self _)
        simp [hhead, hlength, hcandidates, hr]
      · rename_i hcandidates
        constructor
        · intro h
          refine Or.inr ⟨rfl, Or.inr ⟨hnone, hcandidates, ?_⟩⟩
          by_contra hunknown
          rw [if_neg hunknown] at h
          cases h
        · rintro (h | ⟨-, h | ⟨-, -, h⟩⟩)
          · exact absurd h hhead
          · exact absurd h hlength
          · rw [if_pos h]
      · rename_i hsome
        refine iff_of_false (fun h => by cases h) ?_
        rintro (h | ⟨-, h | ⟨-, h, -⟩⟩)
        · exact hhead h
        · exact hlength h
        · exact hsome h

/-- What is taken for no option is taken for none where there are fewer options. -/
theorem readArgument_plain_of_sublist {table table' : FlagTable} (hsub : table'.Sublist table)
    {argument : String} (h : readArgument table argument = .ok .plain) :
    readArgument table' argument = .ok .plain := by
  rw [readArgument_eq_plain_iff] at h ⊢
  refine h.imp id fun ⟨hlookup, h⟩ => ⟨lookup_of_sublist hsub hlookup, h.imp id ?_⟩
  rintro ⟨hvalue, hcandidates, hnumber⟩
  refine ⟨hvalue.imp id (lookup_of_sublist hsub), ?_, hnumber⟩
  exact List.sublist_nil.1 (hcandidates ▸ candidates_sublist hsub argument.toList)

/-- A path that `expand` takes for one of a system is taken for one by `validate`. -/
theorem IsOperand.plain_validate {path : String} (hpath : IsOperand path) :
    readArgument validateFlags path = .ok .plain :=
  readArgument_plain_of_sublist (by decide) hpath.plain

/-! ## Options with values -/

/-- What an option with a value and the argument behind it are taken for. -/
def valueReadings (f : Flag) (o : String × String) : List (String × Reading) :=
  [(o.1, .option f o.1.toList none), (o.2, .plain)]

theorem ne_separator_of_mem_valueReadings {f : Flag} {o : String × String} {k : String × Reading}
    (h : k ∈ valueReadings f o) : k.2 ≠ .separator := by
  simp only [valueReadings, List.mem_cons, List.not_mem_nil, or_false] at h
  rcases h with rfl | rfl
  · exact fun h => by cases h
  · exact fun h => by cases h

theorem readArguments_option {table : FlagTable} {f : Flag} {o : String × String}
    (hne : o.1 ≠ "--") (hoption : readArgument table o.1 = .ok (.option f o.1.toList none))
    (hvalue : o.2.toList.head? ≠ some '-') (r : List String) :
    readArguments table (o.1 :: o.2 :: r) =
      readArguments table r >>= fun ks => .ok (valueReadings f o ++ ks) := by
  rw [readArguments_cons hne hoption, readArguments_cons (ne_separator_of_head hvalue)
    (readArgument_of_head hvalue table), bind_assoc]
  rfl

theorem settle_option (table : FlagTable) (s : Settings) {f : Flag} (hf : f.hasValue = true)
    (o : String × String) (ks : List (String × Reading)) :
    settle table s (valueReadings f o ++ ks) =
      s.setValue f o.2 >>= fun s => settle table s ks := by
  simp only [valueReadings, List.cons_append, List.nil_append]
  rw [settle]
  simp only [hf, if_true]

/-- Options with values of one kind are taken for what they are. -/
theorem readArguments_options {table : FlagTable} {f : Flag} {options : List (String × String)}
    (hne : ∀ o ∈ options, o.1 ≠ "--")
    (hoption : ∀ o ∈ options, readArgument table o.1 = .ok (.option f o.1.toList none))
    (hvalue : ∀ o ∈ options, o.2.toList.head? ≠ some '-') (r : List String) :
    readArguments table (optionArguments options ++ r) =
      readArguments table r >>= fun ks => .ok (options.flatMap (valueReadings f) ++ ks) := by
  induction options with
  | nil => exact (bind_pure (readArguments table r)).symm
  | cons o os ih =>
    have hos := ih (fun o' ho' => hne o' (List.mem_cons_of_mem _ ho'))
      (fun o' ho' => hoption o' (List.mem_cons_of_mem _ ho'))
      fun o' ho' => hvalue o' (List.mem_cons_of_mem _ ho')
    have hsplit : optionArguments (o :: os) ++ r = o.1 :: o.2 :: (optionArguments os ++ r) := rfl
    rw [hsplit, readArguments_option (hne o List.mem_cons_self) (hoption o List.mem_cons_self)
      (hvalue o List.mem_cons_self), hos, bind_assoc]
    rfl

/-! ## Values -/

theorem head_natDigits (n : ℕ) : (String.ofList (natDigits n)).toList.head? ≠ some '-' := by
  rw [String.toList_ofList]
  intro h
  have hdigit := isDigit_of_mem_natDigits (List.mem_of_mem_head? (Option.mem_def.2 h))
  cases hdigit

/-- A variable as it is given does not look like an option. -/
theorem head_of_readAssignment {text : String} {v : String × Float}
    (h : readAssignment text = .ok v) : text.toList.head? ≠ some '-' := by
  intro hhead
  obtain ⟨r, hr⟩ : ∃ r, text.toList = '-' :: r := by
    cases hcs : text.toList with
    | nil =>
      rw [hcs] at hhead
      cases hhead
    | cons c r =>
      rw [hcs] at hhead
      exact ⟨r, by rw [Option.some.inj hhead]⟩
  have hname : isIdentifier (trim ('-' :: (cutAt '=' r).1)) = false := by
    rw [trim, trimStart_of_head rfl, trimEnd_cons rfl]
    rfl
  rw [readAssignment, hr, cutAt, if_neg (by decide)] at h
  dsimp only at h
  split at h
  · cases h
  · rename_i heq
    obtain ⟨rfl, -⟩ := Prod.mk.inj heq
    rw [hname] at h
    cases h

theorem setValue_count (s : Settings) {n : ℕ} (hn : (natDigits n).length ≤ digitLimit) :
    s.setValue .count (String.ofList (natDigits n)) =
      .ok { s with count := some (some (n : ℤ)) } := by
  rw [Settings.setValue, String.toList_ofList, readInteger_natDigits, if_neg (Nat.not_lt.2 hn)]

theorem settle_bindings (table : FlagTable) {bindings : List String} {v : List (String × Float)}
    (h : bindings.mapM readAssignment = .ok v) (s : Settings) :
    settle table s ((varOptions bindings).flatMap (valueReadings .var)) =
      .ok { s with bindings := s.bindings ++ v.map some } := by
  induction bindings generalizing v s with
  | nil =>
    obtain rfl : [] = v := Except.ok.inj h
    rw [List.map_nil, List.append_nil]
    rfl
  | cons b bs ih =>
    rw [List.mapM_cons] at h
    obtain ⟨x, hx, h⟩ := bind_eq_ok.1 h
    obtain ⟨xs, hxs, h⟩ := bind_eq_ok.1 h
    obtain rfl := Except.ok.inj h
    have hset : s.setValue .var b = .ok { s with bindings := s.bindings ++ [some x] } := by
      rw [Settings.setValue, hx]
      rfl
    rw [varOptions, List.map_cons, List.flatMap_cons, settle_option table s rfl, hset, ok_bind,
      ← varOptions, ih hxs, List.append_assoc]
    rfl

/-! ## The command -/

theorem settle_path (table : FlagTable) (s : Settings) (hs : s.system = none) (path : String)
    {ks : List (String × Reading)} (h : ∀ k ∈ ks, k.2 ≠ .separator) :
    settle table s ((path, .plain) :: ks) = settle table { s with system := some path } ks := by
  rw [settle]
  · simp [hs]
  · rintro a t rfl
    exact h (a, .separator) List.mem_cons_self rfl

theorem settle_count (table : FlagTable) (s : Settings) (hs : s.count = none) {count : Option ℕ}
    (h : ∀ n ∈ count, (natDigits n).length ≤ digitLimit) (ks : List (String × Reading)) :
    settle table s ((countOptions count).flatMap (valueReadings .count) ++ ks) =
      settle table { s with count := count.map fun n => some (n : ℤ) } ks := by
  cases count with
  | none =>
    obtain ⟨system, _, bindings, output, verbose, extras⟩ := s
    obtain rfl := hs
    rfl
  | some n =>
    have hsettle := settle_option table s (f := .count) rfl
      ("--count", String.ofList (natDigits n)) ks
    rw [setValue_count s (h n rfl)] at hsettle
    exact hsettle

/-- What the options behind the path are taken for. -/
def optionReadings (count : Option ℕ) (bindings : List String) : List (String × Reading) :=
  (countOptions count).flatMap (valueReadings .count) ++
    (varOptions bindings).flatMap (valueReadings .var)

theorem ne_separator_of_mem_optionReadings {count : Option ℕ} {bindings : List String}
    {k : String × Reading} (hk : k ∈ optionReadings count bindings) : k.2 ≠ .separator := by
  rcases List.mem_append.1 hk with hk | hk
  · obtain ⟨o, -, hk⟩ := List.mem_flatMap.1 hk
    exact ne_separator_of_mem_valueReadings hk
  · obtain ⟨o, -, hk⟩ := List.mem_flatMap.1 hk
    exact ne_separator_of_mem_valueReadings hk

/-- Variables are taken for what they are wherever they are an option. -/
theorem readArguments_vars {table : FlagTable}
    (hvar : readArgument table "--var" = .ok (.option .var "--var".toList none))
    {bindings : List String} {v : List (String × Float)}
    (hbindings : bindings.mapM readAssignment = .ok v) :
    readArguments table (optionArguments (varOptions bindings)) =
      .ok ((varOptions bindings).flatMap (valueReadings .var)) := by
  have hvars : ∀ o ∈ varOptions bindings, o.1 = "--var" ∧ o.2.toList.head? ≠ some '-' := by
    intro o ho
    obtain ⟨b, hb, rfl⟩ := List.mem_map.1 ho
    obtain ⟨x, hx⟩ := exists_ok_of_mapM hbindings hb
    exact ⟨rfl, head_of_readAssignment hx⟩
  rw [← List.append_nil (optionArguments (varOptions bindings)),
    readArguments_options (f := .var)
      (fun o ho => by rw [(hvars o ho).1]; decide)
      (fun o ho => by rw [(hvars o ho).1, hvar]) (fun o ho => (hvars o ho).2),
    readArguments, ok_bind, List.append_nil]

theorem readArguments_expand {path : String} (hpath : IsOperand path) (count : Option ℕ)
    {bindings : List String} {v : List (String × Float)}
    (hbindings : bindings.mapM readAssignment = .ok v) :
    readArguments expandFlags
        (path :: optionArguments (countOptions count ++ varOptions bindings)) =
      .ok ((path, .plain) :: optionReadings count bindings) := by
  have hcounts : ∀ o ∈ countOptions count, o.1 = "--count" ∧ o.2.toList.head? ≠ some '-' := by
    intro o ho
    obtain ⟨n, -, rfl⟩ := List.mem_map.1 ho
    exact ⟨rfl, head_natDigits n⟩
  have hsplit : optionArguments (countOptions count ++ varOptions bindings) =
      optionArguments (countOptions count) ++ optionArguments (varOptions bindings) :=
    List.flatMap_append
  rw [readArguments_cons hpath.ne_separator hpath.plain, hsplit,
    readArguments_options (f := .count)
      (fun o ho => by rw [(hcounts o ho).1]; decide)
      (fun o ho => by rw [(hcounts o ho).1]; rfl) (fun o ho => (hcounts o ho).2),
    readArguments_vars rfl hbindings]
  rfl

theorem ofArguments_expand (arguments : List String) :
    Command.ofArguments ("expand" :: arguments) =
      concern " expand" (readSettings expandFlags arguments) >>= fun s =>
        if s.extras.isEmpty then
          .ok (.expand (s.system.getD "") s.count s.bindings s.output s.verbose)
        else concern "" (.error (.unrecognized s.extras)) := by
  have hcommand : readArgument mainFlags "expand" = .ok .plain := rfl
  rw [Command.ofArguments, findCommand, if_neg (by decide), hcommand]
  dsimp only
  rw [readCommand, if_pos rfl]
  cases readSettings expandFlags arguments with
  | error c => rfl
  | ok s => rfl

/-- The arguments ask for the system to be expanded, if the count is not too long. -/
theorem ofArguments_expandArguments {path : String} (hpath : IsOperand path) {count : Option ℕ}
    (hcount : ∀ n ∈ count, (natDigits n).length ≤ digitLimit) {bindings : List String}
    {v : List (String × Float)} (hbindings : bindings.mapM readAssignment = .ok v) :
    Command.ofArguments (expandArguments path count bindings) =
      .ok (.expand path (count.map fun n => some (n : ℤ)) (v.map some) none false) := by
  have hsettings : readSettings expandFlags
        (path :: optionArguments (countOptions count ++ varOptions bindings)) =
      .ok ⟨some path, count.map fun n => some (n : ℤ), v.map some, none, false, []⟩ := by
    rw [readSettings, readArguments_expand hpath count hbindings, ok_bind,
      settle_path _ _ rfl path fun k => ne_separator_of_mem_optionReadings, optionReadings,
      settle_count _ _ rfl hcount, settle_bindings _ hbindings]
    rfl
  rw [expandArguments, ofArguments_expand, hsettings]
  rfl

theorem ofArguments_validate (arguments : List String) :
    Command.ofArguments ("validate" :: arguments) =
      concern " validate" (readSettings validateFlags arguments) >>= fun s =>
        if s.extras.isEmpty then .ok (.validate (s.system.getD "") s.bindings)
        else concern "" (.error (.unrecognized s.extras)) := by
  have hcommand : readArgument mainFlags "validate" = .ok .plain := rfl
  rw [Command.ofArguments, findCommand, if_neg (by decide), hcommand]
  dsimp only
  rw [readCommand, if_neg (by decide), if_pos rfl]
  cases readSettings validateFlags arguments with
  | error c => rfl
  | ok s => rfl

/-- The arguments ask for the system to be checked. -/
theorem ofArguments_validateArguments {path : String} (hpath : IsOperand path)
    {bindings : List String} {v : List (String × Float)}
    (hbindings : bindings.mapM readAssignment = .ok v) :
    Command.ofArguments (validateArguments path bindings) =
      .ok (.validate path (v.map some)) := by
  have hreadings : readArguments validateFlags (path :: optionArguments (varOptions bindings)) =
      .ok ((path, .plain) :: optionReadings none bindings) := by
    rw [readArguments_cons hpath.ne_separator hpath.plain_validate,
      readArguments_vars rfl hbindings]
    rfl
  have hsettings : readSettings validateFlags (path :: optionArguments (varOptions bindings)) =
      .ok ⟨some path, none, v.map some, none, false, []⟩ := by
    rw [readSettings, hreadings, ok_bind,
      settle_path _ _ rfl path fun k => ne_separator_of_mem_optionReadings, optionReadings,
      settle_count _ _ rfl (by rintro n ⟨⟩), settle_bindings _ hbindings]
    rfl
  rw [validateArguments, ofArguments_validate, hsettings]
  rfl

/-- A count that is too long is refused. -/
theorem ofArguments_longCount {path : String} (hpath : IsOperand path) {n : ℕ}
    (hn : digitLimit < (natDigits n).length) :
    Command.ofArguments (expandArguments path (some n) []) =
      .error ⟨programName ++ " expand", .notInteger (String.ofList (natDigits n))⟩ := by
  have hsettings : readSettings expandFlags
        (path :: optionArguments (countOptions (some n) ++ varOptions [])) =
      .error (.notInteger (String.ofList (natDigits n))) := by
    have hvalue (s : Settings) : s.setValue .count (String.ofList (natDigits n)) =
        .error (.notInteger (String.ofList (natDigits n))) := by
      rw [Settings.setValue, String.toList_ofList, readInteger_natDigits, if_pos hn]
    have hsettle := settle_option expandFlags { Settings.start with system := some path }
      (f := .count) rfl ("--count", String.ofList (natDigits n)) []
    rw [hvalue] at hsettle
    rw [readSettings, readArguments_expand hpath (some n) (v := []) rfl, ok_bind,
      settle_path _ _ rfl path fun k => ne_separator_of_mem_optionReadings]
    have hreadings : optionReadings (some n) [] =
        valueReadings .count ("--count", String.ofList (natDigits n)) ++ [] := rfl
    rw [hreadings, hsettle]
    rfl
  rw [expandArguments, ofArguments_expand, hsettings]
  rfl

end GrowthGrammar.CommandLine
