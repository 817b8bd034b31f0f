import GrowthGrammar.Proofs.Fallible
import GrowthGrammar.Proofs.Word.Written
import GrowthGrammar.Source

/-!
# Names of symbols in growing systems

A system is `Named` when its symbols, and the symbols that its rules can make, have names that
readers give.  Every reader makes named systems (`Growth.named_read`, `Source.named_load`), a
generation keeps a system named (`Growth.Named.step`), and so does a run (`Growth.Named.advance`).
-/

namespace GrowthGrammar

open GrowthGrammar.Text

/-! ## Names that readers give -/

theorem isSymbolName_of_splitHead {kind : GrammarKind} {piece name : List Char}
    {inner : Option (List Char)} (h : splitHead kind piece = .ok (name, inner))
    (hpiece : ';' ∉ piece) (hne : name.isEmpty = false) : IsSymbolName (String.ofList name) := by
  obtain ⟨htrim, hbracket, hsub⟩ := splitHead_name h
  constructor
  · rw [String.toList_ofList]
    exact List.isEmpty_eq_false_iff.1 hne
  · rw [String.toList_ofList, htrim]
  · rw [String.toList_ofList]
    exact fun hc => hpiece (hsub _ hc)
  · rw [String.toList_ofList]
    exact hbracket

theorem isSymbolName_of_readSymbol {piece : List Char} {s : Symbol} (h : readSymbol piece = .ok s)
    (hpiece : ';' ∉ piece) : IsSymbolName s.name := by
  obtain ⟨⟨name, inner⟩, hhead, h⟩ := bind_eq_ok.1 h
  dsimp only at h
  split_ifs at h with hempty
  obtain ⟨parameters, -, h⟩ := bind_eq_ok.1 h
  obtain rfl := Except.ok.inj h
  exact isSymbolName_of_splitHead hhead hpiece (Bool.eq_false_iff.2 hempty)

theorem isSymbolName_of_readAxiom {cs : List Char} {symbols : List Symbol}
    (h : readAxiom cs = .ok symbols) : ∀ s ∈ symbols, IsSymbolName s.name := by
  intro s hs
  obtain ⟨piece, hpiece, hread⟩ := exists_mem_of_mapM h hs
  exact isSymbolName_of_readSymbol hread (not_mem_of_mem_splitAt (List.mem_filter.1 hpiece).1)

theorem isSymbolName_of_readSuccessor {piece : List Char} {t : Template}
    (h : Rule.readSuccessor piece = .ok (some t)) (hpiece : ';' ∉ piece) : IsSymbolName t.name := by
  obtain ⟨⟨name, inner⟩, hhead, h⟩ := bind_eq_ok.1 h
  dsimp only at h
  split_ifs at h with hempty
  · cases h
  · obtain ⟨parameters, -, h⟩ := bind_eq_ok.1 h
    obtain rfl := Option.some.inj (Except.ok.inj h)
    exact isSymbolName_of_splitHead hhead hpiece (Bool.eq_false_iff.2 hempty)

theorem isSymbolName_of_readSuccessors {cs : List Char} {ts : List Template}
    (h : Rule.readSuccessors cs = .ok ts) : ∀ t ∈ ts, IsSymbolName t.name := by
  intro t ht
  obtain ⟨found, hfound, h⟩ := bind_eq_ok.1 h
  obtain rfl := Except.ok.inj h
  obtain ⟨o, ho, rfl⟩ := List.mem_filterMap.1 ht
  obtain ⟨piece, hpiece, hread⟩ := exists_mem_of_mapM hfound ho
  exact isSymbolName_of_readSuccessor hread (not_mem_of_mem_splitAt hpiece)

/-! ## Named systems -/

/-- The rule makes symbols with names that readers give. -/
def Rule.Named (r : Rule) : Prop :=
  ∀ t ∈ r.successors, IsSymbolName t.name

/-- The symbols of a system, and those that its rules can make, have names that readers give. -/
structure Growth.Named (s : Growth) : Prop where
  symbols : ∀ t ∈ s.symbols, IsSymbolName t.name
  rules : ∀ r ∈ s.rules, r.Named

theorem Rule.named_read {globals : Environment} {cs : List Char} {r : Rule}
    (h : Rule.read globals cs = .ok r) : r.Named := by
  obtain ⟨⟨left, right⟩, -, h⟩ := bind_eq_ok.1 h
  obtain ⟨⟨name, inner⟩, -, h⟩ := bind_eq_ok.1 h
  obtain ⟨name', -, h⟩ := bind_eq_ok.1 h
  obtain ⟨parameters, -, h⟩ := bind_eq_ok.1 h
  obtain ⟨condition, -, h⟩ := bind_eq_ok.1 h
  obtain ⟨successors, hsuccessors, h⟩ := bind_eq_ok.1 h
  obtain rfl := Except.ok.inj h
  exact isSymbolName_of_readSuccessors hsuccessors

/-! ## Generations -/

theorem isSymbolName_of_rewrite {r : Rule} (hr : r.Named) {s : Symbol} {block : List Symbol}
    (h : r.rewrite s = .ok (some block)) : ∀ t ∈ block, IsSymbolName t.name := by
  intro t ht
  unfold Rule.rewrite at h
  split at h
  · cases h
  · obtain ⟨holds, -, h⟩ := bind_eq_ok.1 h
    split_ifs at h
    · obtain ⟨made, hmade, h⟩ := bind_eq_ok.1 h
      obtain rfl := Option.some.inj (Except.ok.inj h)
      obtain ⟨template, htemplate, hgenerate⟩ := exists_mem_of_mapM hmade ht
      obtain ⟨parameters, -, hsymbol⟩ := bind_eq_ok.1 hgenerate
      obtain rfl := Except.ok.inj hsymbol
      exact hr template htemplate
    · cases h

theorem isSymbolName_of_blockOf {rules : List Rule} (hrules : ∀ r ∈ rules, r.Named) {s : Symbol}
    (hs : IsSymbolName s.name) {block : List Symbol} (h : blockOf s rules = .ok block) :
    ∀ t ∈ block, IsSymbolName t.name := by
  induction rules with
  | nil =>
    obtain rfl := Except.ok.inj h
    exact List.forall_mem_singleton.2 hs
  | cons r rs ih =>
    rw [blockOf] at h
    split at h
    · cases h
    · rename_i made hmade
      obtain rfl := Except.ok.inj h
      exact isSymbolName_of_rewrite (hrules r List.mem_cons_self) hmade
    · exact ih (fun q hq => hrules q (List.mem_cons_of_mem _ hq)) h

theorem isSymbolName_of_rewriteWord {rules : List Rule} (hrules : ∀ r ∈ rules, r.Named)
    {symbols word : List Symbol} (hsymbols : ∀ s ∈ symbols, IsSymbolName s.name)
    (h : rewriteWord rules symbols = .ok word) : ∀ t ∈ word, IsSymbolName t.name := by
  induction symbols generalizing word with
  | nil =>
    obtain rfl := Except.ok.inj h
    exact fun t ht => absurd ht List.not_mem_nil
  | cons s r ih =>
    rw [rewriteWord, List.flatMapM_cons] at h
    obtain ⟨block, hblock, h⟩ := bind_eq_ok.1 h
    obtain ⟨rest, hrest, h⟩ := bind_eq_ok.1 h
    obtain rfl := Except.ok.inj h
    intro t ht
    rcases List.mem_append.1 ht with ht | ht
    · exact isSymbolName_of_blockOf hrules (hsymbols s List.mem_cons_self) hblock t ht
    · exact ih (fun u hu => hsymbols u (List.mem_cons_of_mem _ hu)) hrest t ht

namespace Growth

/-- A generation keeps a system named. -/
theorem Named.step {s t : Growth} (hs : s.Named) (h : s.step = .ok t) : t.Named := by
  unfold Growth.step at h
  split at h
  · cases h
  · rename_i word hword
    obtain rfl := Except.ok.inj h
    exact ⟨isSymbolName_of_rewriteWord hs.rules hs.symbols hword, hs.rules⟩

theorem Named.advanceBy {s : Growth} (hs : s.Named) (n : ℕ) : (advanceBy n s).1.Named := by
  induction n generalizing s with
  | zero => exact hs
  | succ n ih =>
    rw [Growth.advanceBy]
    split
    · exact hs
    · rename_i t ht
      exact ih (hs.step ht)

theorem Named.advance {s : Growth} (hs : s.Named) (n : ℤ) : (advance n s).1.Named := by
  unfold Growth.advance
  split_ifs
  · exact hs
  · exact hs.advanceBy n.toNat

end Growth

/-! ## Readers -/

/-- What has been read of a description makes a named system. -/
def Description.Named (d : Description) : Prop :=
  d.growth.Named

theorem Description.named_readKeyword {p q : Progress} {line rest : List Char} (hp : p.Named)
    (h : readKeyword p line = .ok (q, rest)) : q.Named := by
  unfold readKeyword at h
  split at h
  · obtain ⟨symbols, hsymbols, h⟩ := bind_eq_ok.1 h
    obtain ⟨rfl, -⟩ := Prod.mk.inj (Except.ok.inj h)
    exact ⟨isSymbolName_of_readAxiom hsymbols, hp.rules⟩
  · split at h
    · obtain ⟨rfl, -⟩ := Prod.mk.inj (Except.ok.inj h)
      exact hp
    · split at h
      · obtain ⟨rfl, -⟩ := Prod.mk.inj (Except.ok.inj h)
        exact hp
      · obtain ⟨rfl, -⟩ := Prod.mk.inj (Except.ok.inj h)
        exact hp

theorem Description.named_readRuleLine {globals : Environment} {p q : Progress} {line : List Char}
    (hp : p.Named) (h : readRuleLine globals p line = .ok q) : q.Named := by
  unfold readRuleLine at h
  split_ifs at h
  · obtain ⟨r, hr, h⟩ := bind_eq_ok.1 h
    obtain rfl := Except.ok.inj h
    refine ⟨hp.symbols, fun r' hr' => ?_⟩
    rcases List.mem_append.1 hr' with hr' | hr'
    · exact hp.rules r' hr'
    · rw [List.mem_singleton.1 hr']
      exact Rule.named_read hr
  · obtain rfl := Except.ok.inj h
    exact hp

theorem Description.named_read {globals : Environment} {cs : List Char} {d : Description}
    (h : Description.read globals cs = .ok d) : d.Named := by
  obtain ⟨p, hp, h⟩ := bind_eq_ok.1 h
  obtain rfl := Except.ok.inj h
  refine foldlM_keeps (P := fun p : Progress => p.Named) ?_ ?_ hp
  · intro p line q hp hline
    unfold readLine at hline
    dsimp only at hline
    split_ifs at hline
    · obtain rfl := Except.ok.inj hline
      exact hp
    · obtain ⟨⟨p', rest⟩, hkeyword, hline⟩ := bind_eq_ok.1 hline
      exact named_readRuleLine (named_readKeyword hp hkeyword) hline
  · exact ⟨fun t ht => absurd ht List.not_mem_nil, fun r hr => absurd hr List.not_mem_nil⟩

theorem Growth.named_read {globals : Environment} {count : Option ℤ} {cs : List Char} {s : Growth}
    (h : Growth.read globals count cs = .ok s) : s.Named := by
  obtain ⟨d, hd, h⟩ := bind_eq_ok.1 h
  have hnamed := (Description.named_read hd).advanceBy
    ((count.orElse fun _ => d.count).getD 0).toNat
  split at h
  · rename_i t ht
    obtain rfl := Except.ok.inj h
    rwa [ht] at hnamed
  · cases h

theorem Source.named_load {read : String → Except Error Bytes} {path : String}
    {overrides : List (String × Number.Given)} {source : Source}
    (h : Source.load read path overrides = .ok source) : source.growth.Named := by
  obtain ⟨cs, -, h⟩ := bind_eq_ok.1 h
  split_ifs at h
  · obtain ⟨c, -, h⟩ := bind_eq_ok.1 h
    obtain ⟨globals, -, h⟩ := bind_eq_ok.1 h
    obtain ⟨symbols, hsymbols, h⟩ := bind_eq_ok.1 h
    obtain ⟨rules, hrules, h⟩ := bind_eq_ok.1 h
    obtain rfl := Except.ok.inj h
    refine ⟨isSymbolName_of_readAxiom hsymbols, fun r hr => ?_⟩
    obtain ⟨text, -, htext⟩ := exists_mem_of_mapM hrules hr
    exact Rule.named_read htext
  · obtain ⟨globals, -, h⟩ := bind_eq_ok.1 h
    obtain ⟨d, hd, h⟩ := bind_eq_ok.1 h
    obtain rfl := Except.ok.inj h
    exact Description.named_read hd

end GrowthGrammar
