import Mathlib.Data.List.Nodup
import Mathlib.Data.List.Perm.Basic
import ImportSurvey.Proofs.FolderFiles
import ImportSurvey.Report.Walkthrough

namespace ImportSurvey.Report.Walkthrough

variable {s : Survey} {folder : String} {number : Nat}

/-- The base folder only moves to the front. -/
theorem folders_perm (s : Survey) : (folders s).Perm s.tree.names := by
  have hroot : (if s.tree.contains Path.root then [Path.root] else []) =
      s.tree.names.filter (· == Path.root) := by
    rw [List.filter_beq, s.tree.names_nodup.count]
    have hmem : s.tree.contains Path.root ↔ Path.root ∈ s.tree.names := Catalog.contains_iff
    by_cases h : Path.root ∈ s.tree.names
    · simp [h, hmem.mpr h]
    · simp [h, mt hmem.mp h]
  rw [folders, hroot]
  exact List.filter_append_perm _ _

theorem folders_nodup (s : Survey) : (folders s).Nodup :=
  (folders_perm s).nodup_iff.mpr s.tree.names_nodup

theorem mem_folders_iff : folder ∈ folders s ↔ folder ∈ s.tree.names :=
  (folders_perm s).mem_iff

theorem length_folders (s : Survey) : (folders s).length = s.tree.size := by
  rw [(folders_perm s).length_eq, FolderTree.length_names]

theorem folderOf?_eq_some_iff :
    folderOf? s number = some folder ↔ 2 ≤ number ∧ (folders s)[number - 2]? = some folder := by
  unfold folderOf?
  split
  next h => simp; omega
  next h => simp; omega

/-- The folders come in the order of the pages. -/
theorem map_folderOf? (s : Survey) :
    (List.range' 2 s.tree.size).map (folderOf? s) = (folders s).map some := by
  rw [← length_folders s]
  refine List.ext_getElem (by simp) fun i hi _ => ?_
  have hlt : i < (folders s).length := by simpa using hi
  simp [folderOf?, hlt, show ¬2 + i < 2 by omega]

theorem exists_page (h : folder ∈ s.tree.names) : ∃ number, folderOf? s number = some folder := by
  obtain ⟨i, hi⟩ := List.mem_iff_getElem?.mp (mem_folders_iff.mpr h)
  exact ⟨i + 2, folderOf?_eq_some_iff.mpr ⟨by omega, hi⟩⟩

theorem mem_names_of_page (h : folderOf? s number = some folder) : folder ∈ s.tree.names :=
  mem_folders_iff.mp (List.mem_of_getElem? (folderOf?_eq_some_iff.mp h).2)

theorem page_unique {other : Nat} (h : folderOf? s number = some folder)
    (h' : folderOf? s other = some folder) : number = other := by
  obtain ⟨hpos, hat⟩ := folderOf?_eq_some_iff.mp h
  obtain ⟨hpos', hat'⟩ := folderOf?_eq_some_iff.mp h'
  obtain ⟨hlt, _⟩ := List.getElem?_eq_some_iff.mp hat
  have heq := (List.getElem?_inj hlt (folders_nodup s)).mp (hat.trans hat'.symm)
  omega

theorem existsUnique_page (h : folder ∈ s.tree.names) :
    ∃! number, folderOf? s number = some folder := by
  obtain ⟨number, hnumber⟩ := exists_page h
  exact ⟨number, hnumber, fun _ hother => page_unique hother hnumber⟩

theorem le_pageCount (h : folderOf? s number = some folder) :
    2 ≤ number ∧ number ≤ pageCount s := by
  obtain ⟨hpos, hat⟩ := folderOf?_eq_some_iff.mp h
  obtain ⟨hlt, _⟩ := List.getElem?_eq_some_iff.mp hat
  rw [length_folders] at hlt
  unfold pageCount
  omega

theorem exists_folder (hpos : 2 ≤ number) (hle : number ≤ pageCount s) :
    ∃ folder, folderOf? s number = some folder := by
  have hlt : number - 2 < (folders s).length := by
    unfold pageCount at hle
    rw [length_folders]
    omega
  exact ⟨_, folderOf?_eq_some_iff.mpr ⟨hpos, List.getElem?_eq_getElem hlt⟩⟩

/-- A page behind the overview has the lines of its folder. -/
theorem page_of_folder (h : folderOf? s number = some folder) :
    page s number = .page number (pageCount s) (unlines (folderLines s folder)) := by
  obtain ⟨hpos, hle⟩ := le_pageCount h
  have hin : ¬(number = 0 ∨ pageCount s < number) := by omega
  rw [page, if_neg hin, bodyLines, h]

end ImportSurvey.Report.Walkthrough
