import ImportSurvey.Proofs.PathParent
import ImportSurvey.Proofs.WalkthroughPages

namespace ImportSurvey.Report.Walkthrough

/-- The folder above another one, or the folder itself if its path is a single segment. -/
def moduleText (folder : String) : String :=
  let above := (Path.segments folder).dropLast
  if above = [] then folder else Path.ofSegments above

/-- The line that the page of a folder begins with. -/
def headText (s : Survey) (folder : String) : String :=
  let count := (s.tree.filesIn folder).length
  "# " ++ folder ++ "/ (" ++ toString count ++ (if count = 1 then " file" else " files") ++
    ", parent module: " ++ moduleText folder ++ ")"

/-- The line of an import on the page of a folder: what is written in the file, where it leads, and
on which side of the module that is. -/
def lineText (folder raw target : String) : String :=
  "  " ++ raw ++ " -> " ++ target ++ "  [" ++
    (if Path.within target (moduleText folder) then "within " else "leaves ") ++
    moduleText folder ++ "]"

/-- The imports of a file that lead out of its folder, as far as the file has a record. -/
def leaving (s : Survey) (folder name : String) : List Import :=
  match s.records.get? (Path.inFolder folder name) with
  | some record => record.imports.filter (leavesFolder folder)
  | none => []

/-- The name of a file with a line below it for each import that leads out of its folder. -/
def fileText (s : Survey) (folder name : String) : List String :=
  name :: (leaving s folder name).map fun i => lineText folder i.raw i.target

/-- The lines for the files of a folder, apart from those without such imports. -/
def filesText (s : Survey) (folder : String) : List String :=
  ((s.tree.filesIn folder).filter fun name => leaving s folder name ≠ []).flatMap
    (fileText s folder)

/-- The line of a page in the index: its number, at least three columns wide, and its folder. -/
def indexText (entry : Nat × String) : String :=
  "  " ++ String.ofList (List.replicate (3 - (toString entry.1).length) ' ') ++
    toString entry.1 ++ "  " ++ entry.2

variable {s : Survey} {folder name : String} {number : Nat}

theorem moduleText_eq (folder : String) : moduleText folder = Path.moduleOf folder := by
  obtain ⟨front, last, h⟩ := Path.exists_segments_append folder
  rw [Path.moduleOf_of_segments h, moduleText, h, List.dropLast_concat]

theorem headText_eq (s : Survey) (folder : String) : headText s folder = folderHeader s folder := by
  have hplural : ∀ count : Nat, (if count = 1 then " file" else " files") =
      " " ++ Text.plural count "file" "files" := by
    intro count
    unfold Text.plural
    split <;> rfl
  simp only [headText, folderHeader, FolderTree.fileCount, moduleText_eq, hplural,
    String.append_assoc]

theorem lineText_eq (folder : String) (line : ImportLine) :
    lineText folder line.raw line.target = importText (Path.moduleOf folder) line := by
  simp only [lineText, importText, moduleText_eq]

theorem outgoing_eq (s : Survey) (folder name : String) :
    outgoing s folder name = (leaving s folder name).map fun i => ⟨name, i.raw, i.target⟩ := by
  unfold outgoing leaving
  cases s.records.get? (Path.inFolder folder name) <;> rfl

theorem fileText_eq (s : Survey) (folder name : String) :
    fileText s folder name =
      name :: (outgoing s folder name).map (importText (Path.moduleOf folder)) := by
  simp only [fileText, outgoing_eq, List.map_map, Function.comp_def, ← lineText_eq]

theorem groups_eq (s : Survey) (folder : String) : groups s folder =
    ((s.tree.filesIn folder).filter fun name => leaving s folder name ≠ []).map fun name =>
      (name, outgoing s folder name) := by
  rw [groups, List.filter_map]
  congr 1
  refine List.filter_congr fun name _ => ?_
  rw [Function.comp_apply, outgoing_eq]
  cases leaving s folder name <;> rfl

theorem groups_eq_nil_iff : groups s folder = [] ↔ filesText s folder = [] := by
  rw [groups_eq, List.map_eq_nil_iff, filesText]
  constructor
  · intro h
    rw [h]
    rfl
  · intro h
    refine List.eq_nil_iff_forall_not_mem.mpr fun name hname => ?_
    have hnil := List.flatMap_eq_nil_iff.mp h name hname
    simp [fileText] at hnil

theorem page_one (s : Survey) : page s 1 = .page 1 (pageCount s) (unlines (overviewLines s)) := by
  have hin : ¬(1 = 0 ∨ pageCount s < 1) := by
    unfold pageCount
    omega
  rw [page, if_neg hin]
  rfl

/-- The overview prints the outline of the tree and the numbers of the pages behind it. -/
theorem overview_text (s : Survey) : page s 1 = .page 1 (pageCount s)
    (unlines (["# Architecture review: " ++ s.base, ""] ++ Outline.lines s.tree ++
      if folders s = [] then []
      else ["", "Pages:"] ++ (index s).map indexText)) := by
  have hentry : indexLine = indexText := funext fun entry => by
    simp only [indexLine, indexText, Text.padLeft, String.append_assoc]
  rw [page_one, overviewLines, hentry]
  simp only [List.isEmpty_iff]

/-- The page of a folder prints its name and size, and then the imports of its files that lead out
of it, or that there are none. -/
theorem page_text (h : folderOf? s number = some folder) :
    page s number = .page number (pageCount s) (unlines ([headText s folder, ""] ++
      if filesText s folder = [] then ["No cross-directory imports."]
      else filesText s folder)) := by
  rw [page_of_folder h, folderLines, headText_eq]
  congr 3
  by_cases hnone : groups s folder = []
  · simp [hnone, groups_eq_nil_iff.mp hnone]
  · have hsome := mt groups_eq_nil_iff.mpr hnone
    simp only [List.isEmpty_iff, hnone, hsome, if_false]
    rw [groups_eq, filesText, List.flatMap_map]
    simp only [← fileText_eq]

/-- The lines for a file with imports to show stand together on the page of its folder. -/
theorem page_file (h : folderOf? s number = some folder) (hname : name ∈ s.tree.filesIn folder)
    (hne : leaving s folder name ≠ []) : ∃ before after,
      page s number = .page number (pageCount s)
        (unlines ([headText s folder, ""] ++ before ++ fileText s folder name ++ after)) := by
  have hmem : name ∈ (s.tree.filesIn folder).filter fun name => leaving s folder name ≠ [] :=
    List.mem_filter.mpr ⟨hname, by simpa using hne⟩
  obtain ⟨front, back, hsplit⟩ := List.append_of_mem hmem
  have hfiles : filesText s folder = front.flatMap (fileText s folder) ++
      fileText s folder name ++ back.flatMap (fileText s folder) := by
    rw [filesText, hsplit, List.flatMap_append, List.flatMap_cons, List.append_assoc]
  have hsome : filesText s folder ≠ [] := by simp [hfiles, fileText]
  refine ⟨front.flatMap (fileText s folder), back.flatMap (fileText s folder), ?_⟩
  rw [page_text h, if_neg hsome, hfiles, ← List.append_assoc, ← List.append_assoc]

end ImportSurvey.Report.Walkthrough
