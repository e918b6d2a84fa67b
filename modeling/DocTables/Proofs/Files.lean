/-
# Paths and what they lead to

A path that is joined from the path of a folder and a name leads to the entry of that name, if the
name stands for nothing but an entry (`Path.Single`, `Files.get?_join`): it is not empty, has no
slash in it, and is neither of the two names that every folder has for itself and for the folder
around it.

The names in a file system are such names, and the entries of one folder have different names
(`FileTree.WellNamed`).  Everything that a path leads to is so again (`Files.wellNamed_of_get?`).
-/
import DocTables.Files
import DocTables.Proofs.Fields

namespace DocTables

/-! ## 1. Parts of paths -/

namespace Path

/-- A name that can stand for an entry of a folder and for nothing else. -/
structure Single (name : String) : Prop where
  ne_empty : name ≠ ""
  ne_dot : name ≠ "."
  ne_dots : name ≠ ".."
  noSlash : '/' ∉ name.toList

theorem single_iff {name : String} :
    Single name ↔ name ≠ "" ∧ name ≠ "." ∧ name ≠ ".." ∧ '/' ∉ name.toList :=
  ⟨fun h => ⟨h.ne_empty, h.ne_dot, h.ne_dots, h.noSlash⟩, fun ⟨h₁, h₂, h₃, h₄⟩ => ⟨h₁, h₂, h₃, h₄⟩⟩

instance (name : String) : Decidable (Single name) := decidable_of_iff _ single_iff.symm

theorem parts_eq_splitOn (cs : List Char) : parts cs = cs.splitOn '/' := by
  induction cs with
  | nil => rfl
  | cons c cs ih =>
    have hne := List.splitOn_ne_nil '/' cs
    rw [parts, ih, List.splitOn_eq_splitOnP, List.splitOn_eq_splitOnP,
      List.splitOnP_cons_eq_if_modifyHead, ← List.splitOn_eq_splitOnP]
    by_cases hc : (c == '/') = true
    · rw [if_pos hc, if_pos hc]
    · rw [if_neg hc, if_neg hc]
      cases hcs : cs.splitOn '/' with
      | nil => exact absurd hcs hne
      | cons first others => rfl

theorem parts_append_slash (cs ds : List Char) :
    parts (cs ++ '/' :: ds) = parts cs ++ parts ds := by
  rw [parts_eq_splitOn, parts_eq_splitOn, parts_eq_splitOn]
  exact List.splitOn_append_cons_self cs ds

theorem parts_of_notMem {cs : List Char} (h : '/' ∉ cs) : parts cs = [cs] := by
  rw [parts_eq_splitOn, List.splitOn_eq_singleton h]

theorem mem_join {folder name : String} {c : Char} (h : c ∈ (join folder name).toList) :
    c ∈ folder.toList ∨ c ∈ name.toList ∨ c = '/' := by
  unfold join at h
  split at h
  · exact .inr (.inl h)
  · split at h
    · rw [String.toList_append] at h
      exact (List.mem_append.mp h).imp_right .inl
    · rw [String.toList_append, String.toList_append] at h
      rcases List.mem_append.mp h with h | h
      · exact (List.mem_append.mp h).imp_right fun h => .inr (by simpa using h)
      · exact .inr (.inl h)

theorem mem_join_right {folder name : String} {c : Char} (h : c ∈ name.toList) :
    c ∈ (join folder name).toList := by
  unfold join
  split
  · exact h
  · split <;> simp [h]

theorem join_ne_nil {folder name : String} (h : name.toList ≠ []) :
    (join folder name).toList ≠ [] := by
  unfold join
  split
  · exact h
  · split <;> simp [h]

/-- What stands after the last dot of a name is its extension. -/
theorem splitExtension_append {stem ext : String} (hstem : stem ≠ "") (hext : ext ≠ "")
    (hdot : '.' ∉ ext.toList) : splitExtension (stem ++ "." ++ ext) = (stem, some ext) := by
  have hreversed : (stem ++ "." ++ ext).toList.reverse =
      ext.toList.reverse ++ '.' :: stem.toList.reverse := by simp
  have hpos : ∀ c ∈ ext.toList.reverse, (c != '.') = true := fun c hc => by
    simpa using fun h : c = '.' => hdot (h ▸ List.mem_reverse.mp hc)
  have hname : ¬(stem ++ "." ++ ext == "..") = true := fun h => by
    have hlength : stem.toList.length + (ext.toList.length + 1) = 2 := by
      simpa using congrArg (fun s : String => s.toList.length) (eq_of_beq h)
    have hs := List.length_pos_iff.mpr (mt String.toList_eq_nil_iff.mp hstem)
    have he := List.length_pos_iff.mpr (mt String.toList_eq_nil_iff.mp hext)
    omega
  obtain ⟨c, cs, hcs⟩ := List.exists_cons_of_ne_nil
    (mt List.reverse_eq_nil_iff.mp (mt String.toList_eq_nil_iff.mp hstem))
  have hdrop : (stem ++ "." ++ ext).toList.reverse.dropWhile (· != '.') = '.' :: c :: cs := by
    rw [hreversed, hcs, List.dropWhile_append_of_pos hpos, List.dropWhile_cons_of_neg (by decide)]
  have htake : (stem ++ "." ++ ext).toList.reverse.takeWhile (· != '.') = ext.toList.reverse := by
    rw [hreversed, List.takeWhile_append_of_pos hpos, List.takeWhile_cons_of_neg (by decide),
      List.append_nil]
  simp only [splitExtension, hdrop, htake, if_neg hname]
  rw [← hcs]
  simp

/-- A name with an extension is made of its stem, a dot and the extension. -/
theorem eq_of_splitExtension {name stem ext : String}
    (h : splitExtension name = (stem, some ext)) : stem ≠ "" ∧ name = stem ++ "." ++ ext := by
  have hname := List.takeWhile_append_dropWhile (p := (· != '.')) (l := name.toList.reverse)
  cases hdrop : name.toList.reverse.dropWhile (· != '.') with
  | nil => simp [splitExtension, hdrop] at h
  | cons dot rest =>
    have hdot : dot = '.' := by
      simpa [hdrop] using List.head?_dropWhile_not (· != '.') name.toList.reverse
    cases rest with
    | nil => simp [splitExtension, hdrop] at h
    | cons c cs =>
      simp only [splitExtension, hdrop] at h
      split at h
      · simp at h
      · obtain ⟨rfl, hext⟩ := Prod.mk.inj h
        obtain rfl := Option.some.inj hext
        rw [hdrop, hdot] at hname
        refine ⟨by simp, String.toList_inj.mp ?_⟩
        calc name.toList = name.toList.reverse.reverse := (List.reverse_reverse _).symm
          _ = (name.toList.reverse.takeWhile (· != '.') ++ '.' :: c :: cs).reverse := by rw [hname]
          _ = _ := by simp

end Path

/-! ## 2. One step after another -/

namespace FileTree

/-- Follow one name from the folder at the front of a list. -/
def enter : List (String × FileTree) → List Char → Option (List (String × FileTree))
  | (name, .folder entries) :: around, part =>
    if part.isEmpty || part == ['.'] then some ((name, .folder entries) :: around)
    else if part == ['.', '.'] then
      some (if around.isEmpty then [(name, .folder entries)] else around)
    else (entries.lookup (String.ofList part)).map fun inner =>
      (String.ofList part, inner) :: (name, .folder entries) :: around
  | _, _ => none

/-- Following names is entering them one after another. -/
theorem follow_eq_foldlM (name : String) (tree : FileTree) (around : List (String × FileTree))
    (parts : List (List Char)) :
    follow name tree around parts = parts.foldlM enter ((name, tree) :: around) := by
  fun_induction follow name tree around parts with
  | case1 name tree around => rfl
  | case2 name around part rest bytes => rfl
  | case3 name around part rest entries hself ih =>
    rw [ih, List.foldlM_cons, enter, if_pos hself]
    rfl
  | case4 name part rest entries hself hup ih =>
    rw [ih, List.foldlM_cons, enter, if_neg hself, if_pos hup]
    rfl
  | case5 name part rest entries hself hup outerName outer around ih =>
    rw [ih, List.foldlM_cons, enter, if_neg hself, if_pos hup]
    rfl
  | case6 name around chars rest entries hself hup part inner hinner ih =>
    rw [ih, List.foldlM_cons, enter, if_neg hself, if_neg hup, hinner]
    rfl
  | case7 name around chars rest entries hself hup part hinner =>
    rw [List.foldlM_cons, enter, if_neg hself, if_neg hup, hinner]
    rfl

/-- An empty part leads nowhere else. -/
theorem eq_of_enter_nil {stack next : List (String × FileTree)} (h : enter stack [] = some next) :
    stack = next := by
  match stack with
  | (name, .folder entries) :: around => simpa [enter] using h
  | (name, .file bytes) :: around => simp [enter] at h
  | [] => simp [enter] at h

/-- A single name leads to the entry of that name. -/
theorem enter_single {part : String} (h : Path.Single part) (name : String)
    (entries around : List (String × FileTree)) :
    enter ((name, .folder entries) :: around) part.toList =
      (entries.lookup part).map fun inner => (part, inner) :: (name, .folder entries) :: around := by
  have hchars {t : String} (ht : part ≠ t) : part.toList ≠ t.toList := fun e =>
    ht (String.toList_inj.mp e)
  have hself : ¬(part.toList.isEmpty || part.toList == ['.']) = true := by
    simpa using ⟨h.ne_empty, hchars h.ne_dot⟩
  have hup : ¬(part.toList == ['.', '.']) = true := by
    simpa using hchars h.ne_dots
  rw [enter, if_neg hself, if_neg hup, String.ofList_toList]

/-! ## 3. Names in a file system -/

/-- The entries of every folder have different names, and each is the name of an entry only. -/
inductive WellNamed : FileTree → Prop
  | file (bytes : List UInt8) : WellNamed (.file bytes)
  | folder {entries : List (String × FileTree)} (distinct : (entries.map Prod.fst).Nodup)
      (single : ∀ e ∈ entries, Path.Single e.1 ∧ '\x00' ∉ e.1.toList)
      (inner : ∀ e ∈ entries, WellNamed e.2) : WellNamed (.folder entries)

/-- In a folder, an entry is found under its name. -/
theorem WellNamed.lookup_eq_some_iff {entries : List (String × FileTree)}
    (h : (FileTree.folder entries).WellNamed) {name : String} {tree : FileTree} :
    entries.lookup name = some tree ↔ (name, tree) ∈ entries := by
  cases h with
  | folder distinct single inner =>
    have hdistinct : (⟨entries⟩ : Fields FileTree).Distinct := distinct
    exact ⟨Fields.mem_entries_of_get? (f := ⟨entries⟩), hdistinct.get?_eq_some⟩

theorem WellNamed.single {entries : List (String × FileTree)} (h : (FileTree.folder entries).WellNamed)
    {e : String × FileTree} (he : e ∈ entries) : Path.Single e.1 ∧ '\x00' ∉ e.1.toList := by
  cases h with
  | folder distinct single inner => exact single e he

theorem WellNamed.inner {entries : List (String × FileTree)} (h : (FileTree.folder entries).WellNamed)
    {e : String × FileTree} (he : e ∈ entries) : e.2.WellNamed := by
  cases h with
  | folder distinct single inner => exact inner e he

/-- The step: what is entered is in the folder, or one of those around it. -/
theorem wellNamed_enter {stack next : List (String × FileTree)} {part : List Char}
    (h : ∀ e ∈ stack, e.2.WellNamed) (step : enter stack part = some next) :
    ∀ e ∈ next, e.2.WellNamed := by
  match stack with
  | [] | (name, .file bytes) :: around => simp [enter] at step
  | (name, .folder entries) :: around =>
    rw [enter] at step
    split at step
    · obtain rfl := Option.some.inj step
      exact h
    · split at step
      · obtain rfl := Option.some.inj step
        split
        · exact fun e he => h e (by simp_all)
        · exact fun e he => h e (List.mem_cons_of_mem _ he)
      · obtain ⟨inner, hinner, rfl⟩ := Option.map_eq_some_iff.mp step
        have hfolder : (folder entries).WellNamed := h _ List.mem_cons_self
        intro e he
        rcases List.mem_cons.mp he with rfl | he
        · exact hfolder.inner (hfolder.lookup_eq_some_iff.mp hinner)
        · exact h e he

/-- The run. -/
theorem wellNamed_foldlM : ∀ {parts : List (List Char)} {stack next : List (String × FileTree)},
    (∀ e ∈ stack, e.2.WellNamed) → parts.foldlM enter stack = some next →
      ∀ e ∈ next, e.2.WellNamed
  | [], stack, next, h, run => by
    obtain rfl : stack = next := by simpa using run
    exact h
  | part :: parts, stack, next, h, run => by
    obtain ⟨after, hstep, hrest⟩ := Option.bind_eq_some_iff.mp run
    exact wellNamed_foldlM (wellNamed_enter h hstep) hrest

end FileTree

/-! ## 4. Joined paths -/

namespace Files

/-- The names that lead to where a path starts, and those that it is made of. -/
def partsOf (f : Files) (path : String) : List (List Char) :=
  if path.toList.head? == some '/' then Path.parts path.toList
  else f.workingFolder.map String.toList ++ Path.parts path.toList

theorem locate?_eq (f : Files) (path : String) :
    f.locate? path =
      if path.toList.isEmpty || path.toList.contains '\x00' then none
      else (f.partsOf path).foldlM FileTree.enter [("", f.root)] := by
  unfold locate? partsOf
  simp only [FileTree.follow_eq_foldlM]
  split
  · rfl
  · split <;> rfl

/-- A joined path ends with its name; before it stand the parts of the path of the folder, without
the empty one that a slash at its end makes. -/
theorem partsOf_join (f : Files) {folder name : String} (hfolder : folder.toList ≠ [])
    (single : Path.Single name) :
    ∃ parts, f.partsOf (Path.join folder name) = parts ++ [name.toList] ∧
      (f.partsOf folder = parts ∨ f.partsOf folder = parts ++ [[]]) := by
  have hname : ¬(name.toList.head? == some '/') = true := fun h =>
    single.noSlash (List.mem_of_mem_head? (by simpa using h))
  have hparts := Path.parts_of_notMem single.noSlash
  unfold Path.join
  rw [if_neg hname]
  obtain ⟨front, last, hlast⟩ := (List.eq_nil_or_concat folder.toList).resolve_left hfolder
  rw [List.concat_eq_append] at hlast
  by_cases hslash : last = '/'
  · subst hslash
    rw [if_pos (by simp [hlast])]
    have hjoin : (folder ++ name).toList = front ++ '/' :: name.toList := by simp [hlast]
    have hhead : (folder ++ name).toList.head? = folder.toList.head? := by
      rw [hjoin, hlast]
      cases front <;> rfl
    unfold partsOf
    rw [hhead, hjoin, hlast, Path.parts_append_slash, Path.parts_append_slash, hparts]
    split
    · exact ⟨_, rfl, .inr rfl⟩
    · exact ⟨_, (List.append_assoc ..).symm, .inr (List.append_assoc ..).symm⟩
  · rw [if_neg (by simp [hlast, hslash])]
    have hjoin : (folder ++ "/" ++ name).toList = folder.toList ++ '/' :: name.toList := by simp
    have hhead : (folder ++ "/" ++ name).toList.head? = folder.toList.head? := by
      rw [hjoin, hlast]
      cases front <;> rfl
    unfold partsOf
    rw [hhead, hjoin, Path.parts_append_slash, hparts]
    split
    · exact ⟨_, rfl, .inl rfl⟩
    · exact ⟨_, (List.append_assoc ..).symm, .inl rfl⟩

/-- **A joined path leads to the entry of its name.** -/
theorem get?_join {f : Files} {folder : String} {entries : List (String × FileTree)}
    (h : f.get? folder = some (.folder entries)) {name : String} (single : Path.Single name)
    (text : '\x00' ∉ name.toList) : f.get? (Path.join folder name) = entries.lookup name := by
  obtain ⟨stack, hstack, hhead⟩ := Option.bind_eq_some_iff.mp h
  obtain ⟨on, around, rfl⟩ : ∃ on around, stack = (on, .folder entries) :: around := by
    match stack, hhead with
    | (on, tree) :: around, hhead => exact ⟨on, around, by simpa using hhead⟩
  rw [locate?_eq] at hstack
  split at hstack
  · simp at hstack
  rename_i hvalid
  obtain ⟨hne, hnul⟩ : folder.toList ≠ [] ∧ '\x00' ∉ folder.toList := by simpa using hvalid
  obtain ⟨parts, hjoin, hfolder⟩ := f.partsOf_join hne single
  -- A slash at the end of the path of the folder has been of no effect.
  have hparts : parts.foldlM FileTree.enter [("", f.root)] =
      some ((on, .folder entries) :: around) := by
    rcases hfolder with hfolder | hfolder
    · rwa [hfolder] at hstack
    · rw [hfolder, List.foldlM_append] at hstack
      obtain ⟨before, hbefore, hlast⟩ := Option.bind_eq_some_iff.mp hstack
      have hsame : FileTree.enter before [] = some ((on, .folder entries) :: around) := by
        simpa using hlast
      rw [hbefore, FileTree.eq_of_enter_nil hsame]
  have hvalid' : ¬((Path.join folder name).toList.isEmpty ||
      (Path.join folder name).toList.contains '\x00') = true := by
    have hname : name.toList ≠ [] := fun h => single.ne_empty (String.toList_eq_nil_iff.mp h)
    have hno : '\x00' ∉ (Path.join folder name).toList := fun hmem => by
      rcases Path.mem_join hmem with hmem | hmem | hmem
      · exact hnul hmem
      · exact text hmem
      · exact absurd hmem (by decide)
    simpa [Path.join_ne_nil hname] using hno
  rw [get?, locate?_eq, if_neg hvalid', hjoin, List.foldlM_append, hparts]
  simp only [Option.bind_eq_bind, Option.bind_some, List.foldlM_cons, List.foldlM_nil,
    FileTree.enter_single single]
  cases entries.lookup name <;> rfl

/-- Everything that a path leads to is named well if everything in the file system is. -/
theorem wellNamed_of_get? {f : Files} (wellNamed : f.root.WellNamed) {path : String}
    {tree : FileTree} (h : f.get? path = some tree) : tree.WellNamed := by
  obtain ⟨stack, hstack, hhead⟩ := Option.bind_eq_some_iff.mp h
  rw [locate?_eq] at hstack
  split at hstack
  · simp at hstack
  obtain ⟨e, he, rfl⟩ := Option.map_eq_some_iff.mp hhead
  have hroot : ∀ e ∈ [("", f.root)], e.2.WellNamed := by
    intro e he
    obtain rfl := List.mem_singleton.mp he
    exact wellNamed
  exact FileTree.wellNamed_foldlM hroot hstack e (List.mem_of_mem_head? he)

/-- For a name with a character that no path can have, too, the path leads to the entry of that
name: to none. -/
theorem get?_join_of_wellNamed {f : Files} (wellNamed : f.root.WellNamed) {folder : String}
    {entries : List (String × FileTree)} (h : f.get? folder = some (.folder entries))
    {name : String} (single : Path.Single name) :
    f.get? (Path.join folder name) = entries.lookup name := by
  by_cases text : '\x00' ∈ name.toList
  · have hpath : '\x00' ∈ (Path.join folder name).toList := Path.mem_join_right text
    have hnone : entries.lookup name = none := Option.eq_none_iff_forall_not_mem.mpr fun tree ht =>
      have hfolder := wellNamed_of_get? wellNamed h
      (hfolder.single (hfolder.lookup_eq_some_iff.mp ht)).2 text
    rw [hnone, get?, locate?_eq, if_pos (by simp [hpath])]
    rfl
  · exact get?_join h single text

theorem isFolder_iff {f : Files} {path : String} :
    f.isFolder path = true ↔ ∃ entries, f.get? path = some (.folder entries) := by
  unfold isFolder
  split <;> simp_all

theorem read?_eq_some_iff {f : Files} {path : String} {bytes : List UInt8} :
    f.read? path = some bytes ↔ f.get? path = some (.file bytes) := by
  unfold read?
  split <;> simp_all

theorem mem_entries_iff {f : Files} {path : String} {e : String × FileTree} :
    e ∈ f.entries path ↔ ∃ entries, f.get? path = some (.folder entries) ∧ e ∈ entries := by
  unfold Files.entries
  split <;> simp_all

end Files

end DocTables
