import GrowthGrammar.FileTree
import GrowthGrammar.Proofs.Text.Cut
import Mathlib.Data.List.Infix

/-!
# What writing a file changes

A path that leads to a file leads to the names that it comes to by its text alone
(`eq_namesOf_of_find`).  A file that cannot be written leaves all files as they were, whatever
folders have been made for it (`files_of_write_error`).  One that is written stands at its path, and
all other files are as they were, unless a device stands there, which leaves all files as they were
(`write_eq_ok`).  All of this follows from what writing can come to (`write_cases`).  Only a null
character in the path makes writing fail by a stray error, and only if no folder fails to be made
(`write_eq_stray_iff`).
-/

namespace GrowthGrammar.FileTree

open GrowthGrammar.Text

variable {t u : FileTree} {path root : String} {names other folder done : List String}
  {content : Bytes} {e : Error} {f : File}

/-! ## Making folders -/

theorem makeFolders_keeps (root : String) (t : FileTree) (done names : List String) :
    (t.makeFolders root done names).1.files = t.files ∧
      (t.makeFolders root done names).1.workplace = t.workplace := by
  induction names generalizing t done with
  | nil => exact ⟨rfl, rfl⟩
  | cons n names ih =>
    unfold makeFolders
    dsimp only
    split_ifs
    · exact ih t _
    · exact ⟨rfl, rfl⟩
    · exact ⟨rfl, rfl⟩
    · exact ⟨rfl, rfl⟩
    · exact ih _ _

theorem files_makeParents (t : FileTree) (path : String) :
    (t.makeParents path).1.files = t.files :=
  (makeFolders_keeps _ t [] _).1

theorem namesOf_makeParents (t : FileTree) (path : String) :
    (t.makeParents path).1.namesOf path = t.namesOf path := by
  have hworkplace : (t.makeParents path).1.workplace = t.workplace :=
    (makeFolders_keeps _ t [] _).2
  rw [namesOf, namesOf, start, start, hworkplace]

/-! ## Putting a file -/

theorem lookup_put (t : FileTree) (names other : List String) (content : Bytes) :
    (t.put names content).files.lookup other =
      if other = names then some (.regular content) else t.files.lookup other := by
  unfold put
  dsimp only
  induction t.files with
  | nil =>
    by_cases h : other = names
    · simp [h]
    · have h' : (other == names) = false := beq_eq_false_iff_ne.2 h
      simp [List.lookup_cons, h, h']
  | cons f files ih =>
    by_cases hf : f.1 = names
    · rw [List.filter_cons_of_neg (by simpa using hf), ih]
      split_ifs with h
      · rfl
      · have h' : (other == f.1) = false := beq_eq_false_iff_ne.2 (hf ▸ h)
        rw [List.lookup_cons, h']
    · rw [List.filter_cons_of_pos (by simpa using hf), List.cons_append, List.lookup_cons, ih,
        List.lookup_cons]
      cases hother : other == f.1 with
      | false => rfl
      | true =>
        have h : other ≠ names := beq_iff_eq.1 hother ▸ hf
        simp only [if_neg h]

theorem lookup_put_self (t : FileTree) (names : List String) (content : Bytes) :
    (t.put names content).files.lookup names = some (.regular content) := by
  rw [lookup_put, if_pos rfl]

theorem isFolder_iff :
    t.isFolder names = true ↔ names <+: t.workplace ∨ names ∈ t.folders ∨
      ∃ f ∈ t.files, names.length < f.1.length ∧ names <+: f.1 := by
  simp only [isFolder, Bool.or_eq_true, List.contains_iff_mem, List.any_eq_true,
    Bool.and_eq_true, decide_eq_true_iff, List.isPrefixOf_iff_prefix, or_assoc]

/-- Every name on the way to a folder is one of a folder. -/
def IsReached (t : FileTree) (folder : List String) : Prop :=
  ∀ front, front <+: folder → t.isFolder front = true

theorem isReached_start (t : FileTree) (path : String) : t.IsReached (t.start path) := by
  intro front hfront
  rw [isFolder_iff]
  refine Or.inl ?_
  unfold start at hfront
  split_ifs at hfront
  · rw [List.prefix_nil.1 hfront]
    exact List.nil_prefix
  · exact hfront

theorem IsReached.dropLast (h : t.IsReached folder) : t.IsReached folder.dropLast :=
  fun front hfront => h front (hfront.trans (List.dropLast_prefix folder))

theorem IsReached.append {n : String} (h : t.IsReached folder)
    (hn : t.isFolder (folder ++ [n]) = true) : t.IsReached (folder ++ [n]) := by
  intro front hfront
  rcases List.prefix_concat_iff.1 hfront with rfl | hfront
  · exact hn
  · exact h front hfront

/-- A file in a folder that is there adds no folders. -/
theorem isFolder_put {n : String} (h : t.IsReached folder) (other : List String) :
    (t.put (folder ++ [n]) content).isFolder other = t.isFolder other := by
  rw [Bool.eq_iff_iff, isFolder_iff]
  constructor
  · rintro (hworkplace | hfolder | ⟨f, hf, hlength, hfront⟩)
    · exact isFolder_iff.2 (Or.inl hworkplace)
    · exact isFolder_iff.2 (Or.inr (Or.inl hfolder))
    · rcases List.mem_append.1 hf with hf | hf
      · exact isFolder_iff.2 (Or.inr (Or.inr ⟨f, (List.mem_filter.1 hf).1, hlength, hfront⟩))
      · obtain rfl := List.mem_singleton.1 hf
        rcases List.prefix_concat_iff.1 hfront with rfl | hfront
        · exact absurd hlength (lt_irrefl _)
        · exact h other hfront
  · intro hfolder
    rcases isFolder_iff.1 hfolder with hworkplace | hfolder | ⟨f, hf, hlength, hfront⟩
    · exact Or.inl hworkplace
    · exact Or.inr (Or.inl hfolder)
    · refine Or.inr (Or.inr ?_)
      by_cases hname : f.1 = folder ++ [n]
      · rw [hname] at hlength hfront
        exact ⟨_, List.mem_append_right _ (List.mem_singleton_self _), hlength, hfront⟩
      · refine ⟨f, List.mem_append_left _ (List.mem_filter.2 ⟨hf, ?_⟩), hlength, hfront⟩
        simpa using hname

/-! ## Finding what has been put -/

/-- A file can be put under these names: they are its own, or are not taken in a folder. -/
inductive Target.Takes : Target → List String → Prop
  | file (names : List String) (f : File) : Takes (.file names f) names
  | vacant (folder : List String) (name : String) : Takes (.vacant folder name) (folder ++ [name])

theorem takes_file : (Target.file other f).Takes names ↔ names = other := by
  constructor
  · rintro ⟨⟩
    rfl
  · rintro rfl
    exact .file _ _

theorem takes_vacant {n : String} :
    (Target.vacant folder n).Takes names ↔ names = folder ++ [n] := by
  constructor
  · rintro ⟨⟩
    rfl
  · rintro rfl
    exact .vacant _ _

/-- What a walk comes to stands in a folder, under the names to which the way leads by itself. -/
theorem exists_folder_of_walk {way : List String} {target : Target} (hstart : t.IsReached folder)
    (h : t.walk folder way = .ok target) (htakes : target.Takes names) :
    (∃ parent n, names = parent ++ [n] ∧ t.IsReached parent) ∧ names = plainNames folder way := by
  fun_induction walk t folder way with
  | case1 =>
    obtain rfl := Except.ok.inj h
    cases htakes
  | case2 folder r ih =>
    rw [plainNames, if_pos rfl]
    exact ih hstart.dropLast h
  | case3 folder n r hn names' hfolder ih =>
    rw [plainNames, if_neg hn]
    exact ih (hstart.append hfolder) h
  | case4 folder n r hn names' hfolder f hlookup hr =>
    obtain rfl := Except.ok.inj h
    obtain rfl := List.isEmpty_iff.1 hr
    rw [plainNames, if_neg hn, plainNames, takes_file.1 htakes]
    exact ⟨⟨folder, n, rfl, hstart⟩, rfl⟩
  | case5 => cases h
  | case6 folder n r hn names' hfolder hlookup hr =>
    obtain rfl := Except.ok.inj h
    obtain rfl := List.isEmpty_iff.1 hr
    rw [plainNames, if_neg hn, plainNames, takes_vacant.1 htakes]
    exact ⟨⟨folder, n, rfl, hstart⟩, rfl⟩
  | case7 => cases h

/-- A walk to where a file is put comes to the file. -/
theorem walk_put {way : List String} {target : Target}
    (hfolders : ∀ other, (t.put names content).isFolder other = t.isFolder other)
    (h : t.walk folder way = .ok target) (htakes : target.Takes names) :
    (t.put names content).walk folder way = .ok (.file names (.regular content)) := by
  fun_induction walk t folder way with
  | case1 =>
    obtain rfl := Except.ok.inj h
    cases htakes
  | case2 folder r ih => rw [walk, if_pos rfl, ih h]
  | case3 folder n r hn names' hfolder ih =>
    rw [walk, if_neg hn, if_pos (by rwa [hfolders]), ih h]
  | case4 folder n r hn names' hfolder f hlookup hr =>
    obtain rfl := Except.ok.inj h
    have hnames : folder ++ [n] = names := (takes_file.1 htakes).symm
    rw [walk, if_neg hn, if_neg (by rwa [hfolders]), hnames, lookup_put_self]
    simp only [hr, if_true]
  | case5 => cases h
  | case6 folder n r hn names' hfolder hlookup hr =>
    obtain rfl := Except.ok.inj h
    have hnames : folder ++ [n] = names := (takes_vacant.1 htakes).symm
    rw [walk, if_neg hn, if_neg (by rwa [hfolders]), hnames, lookup_put_self]
    simp only [hr, if_true]
  | case7 => cases h

theorem walk_of_find {target : Target} (h : t.find path = .ok target) :
    path ≠ "" ∧ ¬pathLimit < path.utf8ByteSize ∧
      t.walk (t.start path) (pathNames path) = .ok target := by
  unfold find at h
  split_ifs at h with hempty hlong
  exact ⟨hempty, hlong, h⟩

/-- What a path leads to stands under the names that the path comes to by itself. -/
theorem eq_namesOf_of_find {target : Target} (h : t.find path = .ok target)
    (htakes : target.Takes names) : names = t.namesOf path :=
  (exists_folder_of_walk (isReached_start t path) (walk_of_find h).2.2 htakes).2

theorem find_put {target : Target} (h : t.find path = .ok target) (htakes : target.Takes names)
    (content : Bytes) :
    (t.put names content).find path = .ok (.file names (.regular content)) := by
  obtain ⟨hempty, hlong, hwalk⟩ := walk_of_find h
  obtain ⟨⟨parent, n, rfl, hreached⟩, -⟩ :=
    exists_folder_of_walk (isReached_start t path) hwalk htakes
  rw [find, if_neg hempty, if_neg hlong]
  exact walk_put (isFolder_put hreached) hwalk htakes

/-! ## Writing a file -/

theorem place_eq_ok (h : t.place path = .ok names) :
    (∃ target, t.find path = .ok target ∧ target.Takes names) ∧ endsInFolder path = false := by
  unfold place at h
  split at h
  · cases h
  · cases h
  · rename_i hfind
    split_ifs at h with hslash hfolder
    obtain rfl := Except.ok.inj h
    exact ⟨⟨_, hfind, .file _ _⟩, Bool.eq_false_iff.2 hfolder⟩
  · rename_i hfind
    split_ifs at h with hslash hfolder
    obtain rfl := Except.ok.inj h
    exact ⟨⟨_, hfind, .vacant _ _⟩, (Bool.or_eq_false_iff.1 (Bool.eq_false_iff.2 hfolder)).1⟩

theorem namesOf_of_place (h : t.place path = .ok names) : names = t.namesOf path := by
  obtain ⟨⟨target, hfind, htakes⟩, -⟩ := place_eq_ok h
  exact eq_namesOf_of_find hfind htakes

/-- What writing a file can come to: an error of its folders, of its path or of its place, or the
file. -/
theorem write_cases (t : FileTree) (path : String) (content : Bytes) :
    (∃ t' e, t.makeParents path = (t', some e) ∧ t.write path content = (t', .error e)) ∨
    ∃ t', t.makeParents path = (t', none) ∧
      ((holdsNull path = true ∧ t.write path content = (t', .error (.stray .nullInPath))) ∨
      holdsNull path = false ∧
        ((∃ e, t'.place path = .error e ∧ t.write path content = (t', .error e)) ∨
        ∃ names, t'.place path = .ok names ∧
          t.write path content = ((t'.send names content).1, .ok (t'.send names content).2))) := by
  unfold write
  rcases t.makeParents path with ⟨t', failure⟩
  cases failure with
  | some e => exact Or.inl ⟨t', e, rfl, rfl⟩
  | none =>
    refine Or.inr ⟨t', rfl, ?_⟩
    dsimp only
    by_cases hnull : holdsNull path = true
    · rw [if_pos hnull]
      exact Or.inl ⟨hnull, rfl⟩
    · rw [if_neg hnull]
      refine Or.inr ⟨Bool.eq_false_iff.2 hnull, ?_⟩
      cases t'.place path with
      | error e => exact Or.inl ⟨e, rfl, rfl⟩
      | ok names => exact Or.inr ⟨names, rfl, rfl⟩

/-- A file that cannot be written changes no file. -/
theorem files_of_write_error (h : t.write path content = (u, .error e)) : u.files = t.files := by
  have hfiles := files_makeParents t path
  obtain ⟨t', e', hparents, hwrite⟩ | ⟨t', hparents, ⟨-, hwrite⟩ | ⟨-, ⟨e', -, hwrite⟩ |
    ⟨names, -, hwrite⟩⟩⟩ := write_cases t path content
  · obtain ⟨rfl, -⟩ := Prod.mk.inj (h.symm.trans hwrite)
    rwa [hparents] at hfiles
  · obtain ⟨rfl, -⟩ := Prod.mk.inj (h.symm.trans hwrite)
    rwa [hparents] at hfiles
  · obtain ⟨rfl, -⟩ := Prod.mk.inj (h.symm.trans hwrite)
    rwa [hparents] at hfiles
  · cases h.symm.trans hwrite

/-- The device at a path, if one stands there, with where it shows what is written to it. -/
def deviceAt (t : FileTree) (path : String) : Option (Option Screen) :=
  match t.files.lookup (t.namesOf path) with
  | some (.device _ screen) => some screen
  | _ => none

theorem send_of_lookup_device {screen : Option Screen}
    (h : t.files.lookup names = some (.device content screen)) (written : Bytes) :
    t.send names written = (t, screen) := by
  unfold send
  rw [h]

theorem send_of_deviceAt_none (h : t.deviceAt path = none) (written : Bytes) :
    t.send (t.namesOf path) written = (t.put (t.namesOf path) written, none) := by
  unfold deviceAt at h
  unfold send
  split
  · rename_i hlookup
    rw [hlookup] at h
    cases h
  · rfl

theorem deviceAt_makeParents (t : FileTree) (path : String) :
    (t.makeParents path).1.deviceAt path = t.deviceAt path := by
  rw [deviceAt, deviceAt, files_makeParents, namesOf_makeParents]

/-- What is written to a device is shown where the device shows it, and changes no file.  Any other
file that is written stands at its path, and the files of other names are as they were. -/
theorem write_eq_ok {screen : Option Screen} (h : t.write path content = (u, .ok screen)) :
    (t.deviceAt path = some screen ∧ u.files = t.files) ∨
    t.deviceAt path = none ∧ screen = none ∧
      u.find path = .ok (.file (t.namesOf path) (.regular content)) ∧
      u.read path = .ok content ∧
      ∀ other, other ≠ t.namesOf path → u.files.lookup other = t.files.lookup other := by
  have hfiles := files_makeParents t path
  have hdevice := deviceAt_makeParents t path
  have hnames := namesOf_makeParents t path
  obtain ⟨t', e', hparents, hwrite⟩ | ⟨t', hparents, ⟨-, hwrite⟩ | ⟨hnull, ⟨e', -, hwrite⟩ |
    ⟨names, hplace, hwrite⟩⟩⟩ := write_cases t path content
  · cases h.symm.trans hwrite
  · cases h.symm.trans hwrite
  · cases h.symm.trans hwrite
  rw [hparents] at hfiles hdevice hnames
  dsimp only at hfiles hdevice hnames
  obtain rfl := namesOf_of_place hplace
  obtain ⟨rfl, hscreen⟩ := Prod.mk.inj (h.symm.trans hwrite)
  obtain rfl := Except.ok.inj hscreen
  cases hat : t'.deviceAt path with
  | some screen =>
    unfold deviceAt at hat
    split at hat
    · rename_i device screen' hlookup
      obtain rfl := Option.some.inj hat
      rw [send_of_lookup_device hlookup, ← hdevice, deviceAt, hlookup]
      exact Or.inl ⟨rfl, hfiles⟩
    · cases hat
  | none =>
    obtain ⟨⟨target, hfind, htakes⟩, hfolder⟩ := place_eq_ok hplace
    have hfound := find_put hfind htakes content
    rw [send_of_deviceAt_none hat, ← hdevice, ← hnames]
    refine Or.inr ⟨hat, rfl, hfound, ?_, fun other hother => ?_⟩
    · rw [read, if_neg (Bool.eq_false_iff.1 hnull), hfound]
      simp [hfolder, File.content]
    · rw [lookup_put, if_neg hother, hfiles]

/-! ## Stray errors -/

theorem holdsNull_iff {text : String} : holdsNull text = true ↔ '\x00' ∈ text.toList :=
  List.contains_iff_mem

theorem holdsNull_of_mem_pathNames {n : String} (h : n ∈ pathNames path)
    (hn : holdsNull n = true) : holdsNull path = true := by
  obtain ⟨piece, hpiece, rfl⟩ := List.mem_map.1 (List.mem_filter.1 h).1
  rw [holdsNull_iff, String.toList_ofList] at hn
  exact holdsNull_iff.2 (mem_of_mem_splitAt hpiece hn)

/-- Plain names go on from some of those in front by names of their own. -/
theorem plainNames_eq_append (done way : List String) :
    ∃ kept rest, plainNames done way = kept ++ rest ∧ kept <+: done ∧ ∀ n ∈ rest, n ∈ way := by
  induction way generalizing done with
  | nil => exact ⟨done, [], (List.append_nil done).symm, List.prefix_rfl, fun n hn => hn⟩
  | cons n way ih =>
    rw [plainNames]
    split_ifs with hn
    · obtain ⟨kept, rest, hplain, hkept, hrest⟩ := ih done.dropLast
      exact ⟨kept, rest, hplain, hkept.trans (List.dropLast_prefix done),
        fun m hm => List.mem_cons_of_mem n (hrest m hm)⟩
    · obtain ⟨kept, rest, hplain, hkept, hrest⟩ := ih (done ++ [n])
      rcases List.prefix_concat_iff.1 hkept with rfl | hkept
      · refine ⟨done, n :: rest, ?_, List.prefix_rfl, ?_⟩
        · rw [hplain, List.append_assoc, List.singleton_append]
        · exact List.forall_mem_cons.2
            ⟨List.mem_cons_self, fun m hm => List.mem_cons_of_mem n (hrest m hm)⟩
      · exact ⟨kept, rest, hplain, hkept, fun m hm => List.mem_cons_of_mem n (hrest m hm)⟩

/-- Folders are kept from being made by an error of a file, or by a null character in a name that
does not lead to the working folder. -/
theorem makeFolders_eq_some (h : (t.makeFolders root done names).2 = some e) :
    (∃ e', e = .file e') ∨ e = .stray .nullInPath ∧
      ∃ front n back, names = front ++ n :: back ∧ holdsNull n = true ∧
        ¬done ++ front ++ [n] <+: t.workplace := by
  induction names generalizing t done with
  | nil => cases h
  | cons n names ih =>
    have hbehind (v : FileTree) (h : (v.makeFolders root (done ++ [n]) names).2 = some e)
        (hv : v.workplace = t.workplace) :
        (∃ e', e = .file e') ∨ e = .stray .nullInPath ∧
          ∃ front m back, n :: names = front ++ m :: back ∧ holdsNull m = true ∧
            ¬done ++ front ++ [m] <+: t.workplace := by
      refine (ih h).imp id fun ⟨he, front, m, back, hnames, hm, hfront⟩ =>
        ⟨he, n :: front, m, back, ?_⟩
      rw [hv, List.append_assoc done] at hfront
      exact ⟨by rw [hnames, List.cons_append], hm, hfront⟩
    unfold makeFolders at h
    dsimp only at h
    split_ifs at h with hfolder hnull hfile hlong
    · exact hbehind _ h rfl
    · have hplace : ¬done ++ [n] <+: t.workplace := fun hn => hfolder (isFolder_iff.2 (Or.inl hn))
      refine Or.inr ⟨(Option.some.inj h).symm, [], n, names, rfl, hnull, ?_⟩
      rwa [List.append_nil]
    · obtain rfl := Option.some.inj h
      cases names with
      | nil => exact Or.inl ⟨_, rfl⟩
      | cons m names =>
        rw [blocked]
        split_ifs with hm
        · refine Or.inr ⟨rfl, [n], m, names, rfl, hm, fun hplace => hfolder (isFolder_iff.2 ?_)⟩
          exact Or.inl ((List.prefix_append _ [m]).trans hplace)
        · exact Or.inl ⟨_, rfl⟩
    · exact Or.inl ⟨_, (Option.some.inj h).symm⟩
    · exact hbehind _ h rfl

theorem makeParents_eq_some (h : (t.makeParents path).2 = some e) :
    (∃ e', e = .file e') ∨ e = .stray .nullInPath ∧ holdsNull path = true := by
  refine (makeFolders_eq_some h).imp id fun ⟨he, front, n, back, hnames, hn, hplace⟩ => ⟨he, ?_⟩
  rw [List.nil_append] at hplace
  obtain ⟨kept, rest, hplain, hkept, hrest⟩ := plainNames_eq_append (t.start path) (pathNames path)
  have hstart : kept <+: t.workplace := by
    unfold start at hkept
    split_ifs at hkept
    · rw [List.prefix_nil.1 hkept]
      exact List.nil_prefix
    · exact hkept
  have hfront : front ++ [n] <+: kept ++ rest := by
    rw [← hplain]
    refine List.IsPrefix.trans ⟨back, ?_⟩ (List.dropLast_prefix (t.namesOf path))
    rw [hnames, List.append_assoc, List.singleton_append]
  -- The name stands behind what is kept of the folder from which the path leads.
  have hmem : n ∈ rest := by
    rcases List.prefix_or_prefix_of_prefix hfront (List.prefix_append kept rest) with h | h
    · exact absurd (h.trans hstart) hplace
    · rcases List.prefix_concat_iff.1 h with rfl | ⟨between, rfl⟩
      · exact absurd hstart hplace
      · rw [List.append_assoc, List.prefix_append_right_inj] at hfront
        exact hfront.subset (List.mem_append_right between (List.mem_singleton_self n))
  exact holdsNull_of_mem_pathNames (hrest n hmem) hn

theorem error_ne_stray {o : Obstruction} {s : Stray} : o.error path ≠ .stray s := by
  cases o <;> exact fun h => by cases h

/-- Only a null character in its path keeps a file from being read by a stray error. -/
theorem read_eq_stray_iff {s : Stray} :
    t.read path = .error (.stray s) ↔ s = .nullInPath ∧ holdsNull path = true := by
  unfold read
  by_cases hnull : holdsNull path = true
  · rw [if_pos hnull]
    simp [hnull, eq_comm]
  · rw [if_neg hnull]
    refine ⟨fun h => ?_, fun ⟨_, h⟩ => absurd h hnull⟩
    split at h
    · exact absurd (Except.error.inj h) error_ne_stray
    · cases h
    · exact absurd (Except.error.inj h) error_ne_stray
    · split_ifs at h
      cases h

theorem place_ne_stray {s : Stray} : t.place path ≠ .error (.stray s) := by
  unfold place
  split
  · exact fun h => error_ne_stray (Except.error.inj h)
  · exact fun h => by cases h
  · split_ifs <;> exact fun h => by cases h
  · split_ifs
    · exact fun h => by cases h
    · exact fun h => error_ne_stray (Except.error.inj h)
    · exact fun h => by cases h

/-- No folder on the way to a path is kept from being made by an error of a file. -/
def FindsFolders (t : FileTree) (path : String) : Prop :=
  ∀ e, (t.makeParents path).2 ≠ some (.file e)

/-- Only a null character in its path keeps a file from being written by a stray error, if no folder
fails to be made. -/
theorem write_eq_stray_iff {s : Stray} (content : Bytes) :
    (t.write path content).2 = .error (.stray s) ↔
      s = .nullInPath ∧ holdsNull path = true ∧ t.FindsFolders path := by
  obtain ⟨t', e, hparents, hwrite⟩ | ⟨t', hparents, hplaced⟩ := write_cases t path content
  · rw [hwrite, FindsFolders, hparents]
    rcases makeParents_eq_some (congrArg Prod.snd hparents) with ⟨e', rfl⟩ | ⟨rfl, hnull⟩
    · simp
    · simp [hnull, eq_comm]
  · have hfolders : t.FindsFolders path := by
      rw [FindsFolders, hparents]
      rintro e ⟨⟩
    obtain ⟨hnull, hwrite⟩ | ⟨hnull, ⟨e, hplace, hwrite⟩ | ⟨names, -, hwrite⟩⟩ := hplaced
    · simp [hwrite, hnull, hfolders, eq_comm]
    · have hne : e ≠ .stray s := by
        rintro rfl
        exact place_ne_stray hplace
      simp [hwrite, hnull, hne]
    · simp [hwrite, hnull]

end GrowthGrammar.FileTree
