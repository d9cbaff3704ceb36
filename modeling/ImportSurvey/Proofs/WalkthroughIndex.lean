import ImportSurvey.Proofs.WalkthroughText

namespace ImportSurvey.Report.Walkthrough

variable {s : Survey} {folder : String} {number : Nat}

theorem page_eq_outOfRange_iff {requested total : Nat} :
    page s number = .outOfRange requested total ↔
      (number = 0 ∨ pageCount s < number) ∧ requested = number ∧ total = pageCount s := by
  unfold page
  split
  next h => simp [h, eq_comm]
  next h => simp [h]

theorem head?_folders (h : Path.root ∈ s.tree.names) : (folders s).head? = some Path.root := by
  have hroot : s.tree.contains Path.root := Catalog.contains_iff.mpr h
  simp [folders, hroot]

theorem filter_folders (s : Survey) :
    (folders s).filter (· != Path.root) = s.tree.names.filter (· != Path.root) := by
  unfold folders
  split
  next => simp [List.filter_filter]
  next => simp [List.filter_filter]

theorem map_snd_index (s : Survey) : (index s).map Prod.snd = folders s := by
  simp [index, Function.comp_def]

/-- The index names a page for a folder if the folder is shown there. -/
theorem mem_index_iff : (number, folder) ∈ index s ↔ folderOf? s number = some folder := by
  rw [folderOf?_eq_some_iff, index, List.mem_map]
  constructor
  · rintro ⟨⟨_, i⟩, hi, heq⟩
    obtain ⟨rfl, rfl⟩ := Prod.mk.inj heq
    exact ⟨by omega, List.mk_mem_zipIdx_iff_getElem?.mp hi⟩
  · rintro ⟨hpos, hat⟩
    exact ⟨(folder, number - 2), List.mk_mem_zipIdx_iff_getElem?.mpr hat, by simp; omega⟩

theorem count_folders (s : Survey) (folder : String) :
    (folders s).count folder = if folder ∈ s.tree.names then 1 else 0 := by
  rw [(folders_perm s).count_eq, s.tree.names_nodup.count]

theorem toList_unlines_cons (first : String) (rest : List String) :
    (unlines (first :: rest)).toList = first.toList ++ '\n' :: (unlines rest).toList := by
  simp [unlines]

/-- A folder with a slash behind it begins with a title without slashes only if its name does. -/
theorem folder_slash_ne {title folder rest after : List Char} (hslash : '/' ∉ title)
    (hfolder : ¬title <+: folder) : folder ++ '/' :: rest ≠ title ++ after := by
  intro heq
  rcases List.append_eq_append_iff.mp heq with ⟨more, rfl, hrest⟩ | ⟨more, rfl, _⟩
  · cases more with
    | nil => exact hfolder (by simp)
    | cons c more =>
      obtain ⟨rfl, _⟩ := List.cons.inj hrest
      exact hslash (by simp)
  · exact hfolder (List.prefix_append _ _)

theorem exists_headText_eq (s : Survey) (folder : String) : ∃ rest,
    (headText s folder).toList = "# ".toList ++ (folder.toList ++ '/' :: rest) := by
  have hslash : "/ (".toList = '/' :: " (".toList := by decide
  simp only [headText, String.append_assoc, String.toList_append, hslash, List.cons_append]
  exact ⟨_, rfl⟩

theorem page_ne_overview {body : String} (h : folderOf? s number = some folder)
    (hfolder : ¬"Architecture review: ".toList <+: folder.toList)
    (hpage : page s number = .page number (pageCount s) body) :
    page s 1 ≠ .page 1 (pageCount s) body := by
  intro hfirst
  rw [page_text h, List.cons_append] at hpage
  rw [page_one, overviewLines, List.cons_append, List.cons_append] at hfirst
  obtain ⟨rest, hhead⟩ := exists_headText_eq s folder
  have htitle : ("# Architecture review: " ++ s.base).toList =
      "# ".toList ++ ("Architecture review: ".toList ++ s.base.toList) := by simp
  have htext := congrArg String.toList
    ((PageAnswer.page.inj hpage).2.2.trans (PageAnswer.page.inj hfirst).2.2.symm)
  simp only [toList_unlines_cons, hhead, htitle, List.append_assoc, List.cons_append,
    List.append_cancel_left_eq] at htext
  exact folder_slash_ne (by decide) hfolder htext

/-- Each number stands for one page or for none, each folder with files has one page, and the
overview gives the number of this page. -/
structure Numbered (s : Survey) : Prop where
  outOfRange_iff : ∀ number requested total, page s number = .outOfRange requested total ↔
    (number = 0 ∨ 1 + s.tree.size < number) ∧ requested = number ∧ total = 1 + s.tree.size
  once : ∀ folder, (folders s).count folder = if folder ∈ s.tree.names then 1 else 0
  root_first : Path.root ∈ s.tree.names → (folders s).head? = some Path.root
  ascending : ((folders s).filter (· != Path.root)).Pairwise (· < ·)
  folder_page : ∀ number, 2 ≤ number → number ≤ 1 + s.tree.size →
    ∃ folder, (folders s)[number - 2]? = some folder ∧ folderOf? s number = some folder ∧
      page s number = .page number (1 + s.tree.size) (unlines ([headText s folder, ""] ++
        if filesText s folder = [] then ["No cross-directory imports."] else filesText s folder))
  /-- The page of a folder is not the overview; only a folder whose name begins like the title of
  the overview could let the two texts be taken for each other. -/
  not_overview : ∀ number folder body, folderOf? s number = some folder →
    ¬"Architecture review: ".toList <+: folder.toList →
      page s number = .page number (1 + s.tree.size) body →
        page s 1 ≠ .page 1 (1 + s.tree.size) body
  page_of : ∀ folder ∈ s.tree.names, ∃! number, folderOf? s number = some folder
  overview : page s 1 = .page 1 (1 + s.tree.size)
    (unlines (["# Architecture review: " ++ s.base, ""] ++ Outline.lines s.tree ++
      if folders s = [] then []
      else ["", "Pages:"] ++ (index s).map indexText))
  index_folders : (index s).map Prod.snd = folders s
  index_iff : ∀ number folder, (number, folder) ∈ index s ↔ folderOf? s number = some folder

/-- The pages of every survey are numbered right. -/
theorem survey_numbered (s : Survey) : Numbered s where
  outOfRange_iff _ _ _ := page_eq_outOfRange_iff
  once := count_folders s
  root_first := head?_folders
  ascending := by
    rw [filter_folders]
    exact s.tree.folders.keys_pairwise.filter _
  folder_page number hpos hle := by
    obtain ⟨folder, hfolder⟩ := exists_folder hpos hle
    exact ⟨folder, (folderOf?_eq_some_iff.mp hfolder).2, hfolder, page_text hfolder⟩
  not_overview _ _ _ := page_ne_overview
  page_of _ := existsUnique_page
  overview := overview_text s
  index_folders := map_snd_index s
  index_iff _ _ := mem_index_iff

/-- The index of the overview gives the numbers of the two pages behind it, and there is no
other. -/
theorem survey_numbered_pages :
    let imports : List Import := [⟨"../main", "main.ts", .resolved⟩,
      ⟨"./b/z", "a/b/z.ts", .resolved⟩, ⟨"react", "react", .external⟩]
    let s : Survey := ⟨"/base", .ofFiles ["a/x.ts", "main.ts"], [],
      .ofList [("a/x.ts", .ofImports imports)], []⟩
    Numbered s ∧
      page s 1 = .page 1 3 ("# Architecture review: /base\n\n" ++ "2 files in 2 directories\n" ++
        "./ (1 file)\n  a/ (1 file)\n\n" ++ "Pages:\n    2  .\n    3  a\n") ∧
      page s 2 = .page 2 3 ("# ./ (1 file, parent module: .)\n\n" ++
        "No cross-directory imports.\n") ∧
      page s 3 = .page 3 3 ("# a/ (1 file, parent module: a)\n\n" ++ "x.ts\n" ++
        "  ../main -> main.ts  [leaves a]\n") ∧
      page s 4 = .outOfRange 4 3 := by
  intro imports s
  exact ⟨survey_numbered s, by decide, by decide, by decide, by decide⟩

/-- The base folder comes first, although the name of another folder stands before its dot. -/
example : folders ⟨"/base", .ofFiles ["-x/b.ts", "a.ts", "a/c.ts"], [], .empty, []⟩ =
    [".", "-x", "a"] := by
  decide

end ImportSurvey.Report.Walkthrough
