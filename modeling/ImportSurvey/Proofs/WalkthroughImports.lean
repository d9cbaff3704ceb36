import ImportSurvey.Proofs.WalkthroughText

namespace ImportSurvey.Report.Walkthrough

/-- The imports of a file that lead out of the folder of the file. -/
def crossing (file : String) (record : FileImports) : List ImportLine :=
  (record.imports.filter (leavesFolder (Path.parent file))).map fun i =>
    ⟨Path.leaf file, i.raw, i.target⟩

/-- The imports on a page, grouped by file. The overview has none. -/
def groupsOn (s : Survey) (number : Nat) : List (String × List ImportLine) :=
  match folderOf? s number with
  | some folder => groups s folder
  | none => []

/-- A walkthrough loses no import that leads out of its folder, and shows none twice. -/
structure Faithful (s : Survey) : Prop where
  /-- Each folder with files has one page. -/
  page_of : ∀ folder ∈ s.tree.names, ∃! number, folderOf? s number = some folder
  /-- Each page behind the overview is the page of a folder and prints the groups on it, each import
  on a line of its own below the name of the file. -/
  folder_of : ∀ number, 2 ≤ number → number ≤ pageCount s →
    ∃ folder ∈ s.tree.names, folderOf? s number = some folder ∧
      page s number = .page number (pageCount s) (unlines ([headText s folder, ""] ++
        if groupsOn s number = [] then ["No cross-directory imports."]
        else (groupsOn s number).flatMap fun g =>
          g.1 :: g.2.map fun line => lineText folder line.raw line.target))
  /-- The groups on all these pages are those of the files, under their names and on the pages of
  their folders. -/
  groups_perm : ((List.range' 2 s.tree.size).flatMap fun number =>
      (groupsOn s number).map fun g => (folderOf? s number, g)).Perm
    ((s.records.entries.filter fun e => !(crossing e.1 e.2).isEmpty).map fun e =>
      (some (Path.parent e.1), Path.leaf e.1, crossing e.1 e.2))
  /-- The overview prints no import: it is the outline of the tree and the numbers of the pages. -/
  overview : page s 1 = .page 1 (pageCount s)
    (unlines (["# Architecture review: " ++ s.base, ""] ++ Outline.lines s.tree ++
      if folders s = [] then []
      else ["", "Pages:"] ++ (index s).map indexText))
  /-- A page says so if it has no line, and only then. -/
  silent_iff : ∀ number folder, folderOf? s number = some folder →
    (page s number = .page number (pageCount s)
        (unlines [headText s folder, "", "No cross-directory imports."]) ↔
      (groupsOn s number).flatMap Prod.snd = [])

variable {s : Survey} {folder : String}

theorem groupsOn_of_page {number : Nat} (h : folderOf? s number = some folder) :
    groupsOn s number = groups s folder := by
  rw [groupsOn, h]

theorem page_groups {number : Nat} (h : folderOf? s number = some folder) :
    page s number = .page number (pageCount s) (unlines ([headText s folder, ""] ++
      if groupsOn s number = [] then ["No cross-directory imports."]
      else (groupsOn s number).flatMap fun g =>
        g.1 :: g.2.map fun line => lineText folder line.raw line.target)) := by
  rw [page_of_folder h, groupsOn_of_page h, folderLines, headText_eq]
  simp only [lineText_eq, List.isEmpty_iff]

theorem mem_groups_iff {g : String × List ImportLine} :
    g ∈ groups s folder ↔
      g.1 ∈ s.tree.filesIn folder ∧ g.2 = outgoing s folder g.1 ∧ g.2 ≠ [] := by
  obtain ⟨name, lines⟩ := g
  simp only [groups, List.mem_filter, List.mem_map, Prod.mk.injEq, Bool.not_eq_true',
    List.isEmpty_eq_false_iff]
  constructor
  · rintro ⟨⟨_, hname, rfl, rfl⟩, hne⟩
    exact ⟨hname, rfl, hne⟩
  · rintro ⟨hname, rfl, hne⟩
    exact ⟨⟨name, hname, rfl, rfl⟩, hne⟩

/-- Only a file with a record has imports on a page. -/
theorem exists_record_of_mem_groups {g : String × List ImportLine} (h : g ∈ groups s folder) :
    ∃ record, s.records.get? (Path.inFolder folder g.1) = some record := by
  obtain ⟨_, hlines, hne⟩ := mem_groups_iff.mp h
  rw [hlines] at hne
  unfold outgoing at hne
  split at hne
  next record hget => exact ⟨record, hget⟩
  next => exact absurd rfl hne

/-- On the page of its folder a file has the imports that lead out of the folder. -/
theorem outgoing_eq_crossing {name : String} {record : FileImports}
    (hget : s.records.get? (Path.inFolder folder name) = some record)
    (hparent : Path.parent (Path.inFolder folder name) = folder)
    (hleaf : Path.leaf (Path.inFolder folder name) = name) :
    outgoing s folder name = crossing (Path.inFolder folder name) record := by
  rw [outgoing, hget, crossing, hparent, hleaf]

/-- The hypotheses under which a page finds the record of every file: each recorded path is of
normal form and stands once in the tree, under its folder. All trees that are made of files are
plain, also those that folders were left out of (`plain_ofFiles`, `Plain.without`). -/
structure Listed (s : Survey) : Prop where
  plain : s.tree.Plain
  normal : ∀ file ∈ s.records.keys, Path.Normal file
  once : ∀ file ∈ s.records.keys,
    (s.tree.filesIn (Path.parent file)).count (Path.leaf file) = 1

theorem Listed.parent_leaf (listed : Listed s) {name : String}
    (hname : name ∈ s.tree.filesIn folder) :
    Path.parent (Path.inFolder folder name) = folder ∧
      Path.leaf (Path.inFolder folder name) = name := by
  have hfree := listed.plain.name_free folder name hname
  have hne := listed.plain.folder_ne folder (FolderTree.mem_names_of_mem_filesIn hname)
  exact ⟨Path.parent_inFolder hne hfree, Path.leaf_inFolder folder hfree⟩

/-- A group stands on a page exactly if it is that of a file of the folder. -/
theorem Listed.mem_groups_iff (listed : Listed s) {g : String × List ImportLine} :
    g ∈ groups s folder ↔ ∃ e ∈ s.records.entries, folder = Path.parent e.1 ∧
      g = (Path.leaf e.1, crossing e.1 e.2) ∧ crossing e.1 e.2 ≠ [] := by
  constructor
  · intro hg
    obtain ⟨hname, hlines, hne⟩ := Walkthrough.mem_groups_iff.mp hg
    obtain ⟨record, hget⟩ := exists_record_of_mem_groups hg
    obtain ⟨hparent, hleaf⟩ := listed.parent_leaf hname
    rw [outgoing_eq_crossing hget hparent hleaf] at hlines
    refine ⟨_, Catalog.get?_eq_some_iff.mp hget, hparent.symm, ?_, hlines ▸ hne⟩
    rw [hleaf, ← hlines]
  · rintro ⟨⟨file, record⟩, he, rfl, rfl, hne⟩
    have hfile : file ∈ s.records.keys := List.mem_map_of_mem he
    have hback := Path.inFolder_parent_leaf (listed.normal file hfile)
    have hname : Path.leaf file ∈ s.tree.filesIn (Path.parent file) :=
      List.count_pos_iff.mp (by rw [listed.once file hfile]; omega)
    refine Walkthrough.mem_groups_iff.mpr ⟨hname, ?_, hne⟩
    have hget : s.records.get? (Path.inFolder (Path.parent file) (Path.leaf file)) =
        some record := by
      rw [hback]
      exact Catalog.get?_eq_some_iff.mpr he
    have hlines := outgoing_eq_crossing hget (by rw [hback]) (by rw [hback])
    rw [hlines, hback]

/-- A name that has a group stands once in its folder, so it has one group. -/
theorem Listed.groups_nodup (listed : Listed s) (folder : String) : (groups s folder).Nodup := by
  apply List.Nodup.of_map Prod.fst
  have hnames : (groups s folder).map Prod.fst =
      (s.tree.filesIn folder).filter fun name => !(outgoing s folder name).isEmpty := by
    simp [groups, List.filter_map, Function.comp_def]
  rw [hnames, List.nodup_iff_count_le_one]
  intro name
  by_cases hmem : name ∈ (s.tree.filesIn folder).filter fun name =>
      !(outgoing s folder name).isEmpty
  · obtain ⟨hname, hne⟩ := List.mem_filter.mp hmem
    have hgroup : (name, outgoing s folder name) ∈ groups s folder :=
      Walkthrough.mem_groups_iff.mpr ⟨hname, rfl, by simpa using hne⟩
    obtain ⟨e, he, rfl, heq, _⟩ := listed.mem_groups_iff.mp hgroup
    obtain ⟨rfl, _⟩ := Prod.mk.inj heq
    rw [← listed.once e.1 (List.mem_map_of_mem he)]
    exact List.filter_sublist.count_le _
  · rw [List.count_eq_zero_of_not_mem hmem]
    omega

theorem flatMap_groupsOn (s : Survey) :
    ((List.range' 2 s.tree.size).flatMap fun number =>
        (groupsOn s number).map fun g => (folderOf? s number, g)) =
      (folders s).flatMap fun folder => (groups s folder).map fun g => (some folder, g) := by
  let shown (folder? : Option String) : List (Option String × String × List ImportLine) :=
    match folder? with
    | some folder => (groups s folder).map fun g => (some folder, g)
    | none => []
  have hpage : ∀ number, (groupsOn s number).map (fun g => (folderOf? s number, g)) =
      shown (folderOf? s number) := by
    intro number
    unfold groupsOn
    cases folderOf? s number <;> rfl
  simp only [hpage]
  rw [← List.flatMap_map (folderOf? s) shown, map_folderOf?, List.flatMap_map]

theorem Listed.groups_perm (listed : Listed s) :
    ((List.range' 2 s.tree.size).flatMap fun number =>
        (groupsOn s number).map fun g => (folderOf? s number, g)).Perm
      ((s.records.entries.filter fun e => !(crossing e.1 e.2).isEmpty).map fun e =>
        (some (Path.parent e.1), Path.leaf e.1, crossing e.1 e.2)) := by
  rw [flatMap_groupsOn]
  refine (List.perm_ext_iff_of_nodup ?_ ?_).mpr fun ⟨folder?, g⟩ => ?_
  · rw [List.nodup_flatMap]
    constructor
    · intro folder _
      exact (listed.groups_nodup folder).map fun g g' h => (Prod.mk.inj h).2
    · refine (folders_nodup s).imp fun hne => ?_
      rintro ⟨folder?, g⟩ hg hg'
      obtain ⟨_, _, heq⟩ := List.mem_map.mp hg
      obtain ⟨_, _, heq'⟩ := List.mem_map.mp hg'
      exact hne (Option.some.inj ((Prod.mk.inj heq).1.trans (Prod.mk.inj heq').1.symm))
  · have hentries : s.records.entries.Nodup := s.records.keys_nodup.of_map Prod.fst
    refine List.Nodup.map_on ?_ (hentries.filter _)
    intro e he e' he' heq
    have hmem := (List.mem_filter.mp he).1
    have hmem' := (List.mem_filter.mp he').1
    simp only [Prod.mk.injEq, Option.some.injEq] at heq
    have hfile : e.1 = e'.1 := by
      rw [← Path.inFolder_parent_leaf (listed.normal e.1 (List.mem_map_of_mem hmem)),
        ← Path.inFolder_parent_leaf (listed.normal e'.1 (List.mem_map_of_mem hmem')),
        heq.1, heq.2.1]
    have hget := Catalog.get?_eq_some_iff.mpr hmem
    have hget' := Catalog.get?_eq_some_iff.mpr hmem'
    rw [hfile] at hget
    exact Prod.ext hfile (Option.some.inj (hget.symm.trans hget'))
  · simp only [List.mem_flatMap, List.mem_map, List.mem_filter, Bool.not_eq_true',
      List.isEmpty_eq_false_iff, Prod.mk.injEq]
    constructor
    · rintro ⟨folder, _, _, hg, rfl, rfl⟩
      obtain ⟨e, he, rfl, rfl, hne⟩ := listed.mem_groups_iff.mp hg
      exact ⟨e, ⟨he, hne⟩, rfl, rfl⟩
    · rintro ⟨e, ⟨he, hne⟩, rfl, rfl⟩
      have hg := listed.mem_groups_iff.mpr ⟨e, he, rfl, rfl, hne⟩
      have hname := (Walkthrough.mem_groups_iff.mp hg).1
      exact ⟨_, mem_folders_iff.mpr (FolderTree.mem_names_of_mem_filesIn hname), _, hg, rfl, rfl⟩

theorem toList_unlines_concat (front : List String) (last : String) :
    (unlines (front ++ [last])).toList = (unlines front).toList ++ last.toList ++ ['\n'] := by
  simp [unlines, String.join_eq_foldl]

theorem exists_lineText_eq (folder raw target : String) :
    ∃ before, (lineText folder raw target).toList = before ++ [']'] :=
  ⟨_, String.toList_append⟩

/-- A page with imports ends with the line of one. -/
theorem exists_last_line {lines : List (String × List ImportLine)} (hne : lines ≠ [])
    (hlines : ∀ g ∈ lines, g.2 ≠ []) (folder : String) : ∃ front raw target,
      (lines.flatMap fun g => g.1 :: g.2.map fun line => lineText folder line.raw line.target) =
        front ++ [lineText folder raw target] := by
  obtain ⟨init, g, rfl⟩ := List.eq_nil_or_concat' lines |>.resolve_left hne
  obtain ⟨before, line, hg⟩ :=
    List.eq_nil_or_concat' g.2 |>.resolve_left (hlines g (by simp))
  rw [List.flatMap_append, List.flatMap_singleton, hg, List.map_append, List.map_singleton,
    ← List.cons_append, ← List.append_assoc]
  exact ⟨_, _, _, rfl⟩

theorem silent_iff {number : Nat} (h : folderOf? s number = some folder) :
    page s number = .page number (pageCount s)
        (unlines [headText s folder, "", "No cross-directory imports."]) ↔
      (groupsOn s number).flatMap Prod.snd = [] := by
  have hlines : ∀ g ∈ groupsOn s number, g.2 ≠ [] := by
    intro g hg
    rw [groupsOn_of_page h] at hg
    exact (mem_groups_iff.mp hg).2.2
  rw [page_groups h]
  constructor
  · intro hpage
    by_contra hsome
    have hne : groupsOn s number ≠ [] := by
      rintro hnil
      simp [hnil] at hsome
    rw [if_neg hne] at hpage
    obtain ⟨front, raw, target, hlast⟩ := exists_last_line hne hlines folder
    obtain ⟨before, hbefore⟩ := exists_lineText_eq folder raw target
    have htext := congrArg String.toList (PageAnswer.page.inj hpage).2.2
    have hsilent : [headText s folder, "", "No cross-directory imports."] =
        [headText s folder, ""] ++ ["No cross-directory imports."] := rfl
    rw [hlast, ← List.append_assoc, hsilent, toList_unlines_concat, toList_unlines_concat,
      hbefore] at htext
    have hend := congrArg (fun text => text.dropLast.getLast?) htext
    simp at hend
  · intro hnone
    have hnil : groupsOn s number = [] := by
      rw [List.eq_nil_iff_forall_not_mem]
      intro g hg
      exact hlines g hg (List.flatMap_eq_nil_iff.mp hnone g hg)
    rw [if_pos hnil]
    rfl

/-- If the recorded paths are of normal form and each stands once in the tree, the pages show all
imports that lead out of a folder, each of them once, and nothing else. -/
theorem faithful_of_listed (listed : Listed s) : Faithful s where
  page_of _ := existsUnique_page
  folder_of number hpos hle := by
    obtain ⟨folder, h⟩ := exists_folder hpos hle
    exact ⟨folder, mem_names_of_page h, h, page_groups h⟩
  groups_perm := listed.groups_perm
  overview := overview_text s
  silent_iff _ _ h := silent_iff h

/-- Of four imports of a file two lead out of its folder: one to a folder whose name begins alike,
and one to no file. -/
theorem faithful_of_listed_nested :
    let imports : List Import := [⟨"../ab/w", "ab/w.ts", .resolved⟩,
      ⟨"./b/z", "a/b/z.ts", .resolved⟩, ⟨"react", "react", .external⟩,
      ⟨"../gone", "gone", .unresolved⟩]
    let s : Survey := ⟨"/base", .ofFiles ["main.ts", "a/x.ts", "a/y.ts", "a/b/z.ts", "ab/w.ts"], [],
      .ofList [("a/x.ts", .ofImports imports), ("main.ts", .empty), ("ab/w.ts", .empty)], []⟩
    Listed s ∧ Faithful s ∧ groupsOn s 3 = [("x.ts", [⟨"x.ts", "../ab/w", "ab/w.ts"⟩,
      ⟨"x.ts", "../gone", "gone"⟩])] ∧ [2, 4, 5].flatMap (groupsOn s) = [] ∧
      page s 3 = .page 3 5 ("# a/ (2 files, parent module: a)\n\n" ++ "x.ts\n" ++
        "  ../ab/w -> ab/w.ts  [leaves a]\n" ++ "  ../gone -> gone  [leaves a]\n") ∧
      page s 4 = .page 4 5 ("# a/b/ (1 file, parent module: a)\n\n" ++
        "No cross-directory imports.\n") := by
  intro imports s
  have listed : Listed s := ⟨FolderTree.plain_ofFiles _, by decide, by decide⟩
  exact ⟨listed, faithful_of_listed listed, by decide, by decide, by decide, by decide⟩

end ImportSurvey.Report.Walkthrough
