import ImportSurvey.Proofs.FolderFiles
import ImportSurvey.Proofs.StableSorts

namespace ImportSurvey

/-- More files come first, and of equally many the smaller path. -/
def CrowdedFolder.Precedes (a b : CrowdedFolder) : Prop :=
  b.fileCount < a.fileCount ∨ a.fileCount = b.fileCount ∧ a.path < b.path

instance : Std.Asymm CrowdedFolder.Precedes where
  asymm a b hab hba := by
    rcases hab with hmore | ⟨_, hlt⟩
    · rcases hba with hless | ⟨heq, _⟩
      · omega
      · omega
    · rcases hba with hless | ⟨_, hgt⟩
      · omega
      · exact String.lt_asymm hlt hgt

namespace FolderTree

variable {t : FolderTree} {threshold higher : Nat} {f : CrowdedFolder}

theorem mem_crowded : f ∈ t.crowded threshold ↔ f.path ∈ t.names ∧ f.path ≠ Path.root ∧
    f.fileCount = t.fileCount f.path ∧ threshold ≤ f.fileCount := by
  have hcount : ∀ names, (f.path, names) ∈ t.folders.entries →
      t.fileCount f.path = names.length := by
    intro names h
    simp [fileCount, filesIn, Catalog.get?_eq_some_iff.mpr h]
  simp only [crowded, List.mem_mergeSort, List.mem_map, List.mem_filter]
  constructor
  · rintro ⟨⟨path, names⟩, ⟨hmem, hcrowded⟩, rfl⟩
    obtain ⟨hroot, hmany⟩ : path ≠ Path.root ∧ threshold ≤ names.length := by simpa using hcrowded
    exact ⟨List.mem_map_of_mem hmem, hroot, (hcount names hmem).symm, hmany⟩
  · rintro ⟨hname, hroot, heq, hmany⟩
    obtain ⟨names, hget⟩ := Catalog.mem_keys_iff.mp hname
    have hmem := Catalog.get?_eq_some_iff.mp hget
    rw [hcount names hmem] at heq
    refine ⟨_, ⟨hmem, ?_⟩, ?_⟩
    · simpa [hroot, heq] using hmany
    · rw [← heq]

theorem crowded_sorted (t : FolderTree) (threshold : Nat) :
    (t.crowded threshold).Pairwise CrowdedFolder.Precedes := by
  have hpaths : ((t.folders.entries.filter fun e =>
      e.1 != Path.root && threshold ≤ e.2.length).map fun e =>
        CrowdedFolder.mk e.1 e.2.length).Pairwise fun a b => a.path < b.path :=
    List.pairwise_map.mpr (t.folders.sorted.filter _)
  exact (stablySorts_mergeSort CrowdedFolder.fileCount _).pairwise hpaths

theorem crowded_nodup (t : FolderTree) (threshold : Nat) :
    ((t.crowded threshold).map (·.path)).Nodup := by
  rw [List.Nodup, List.pairwise_map]
  refine (t.crowded_sorted threshold).imp_of_mem ?_
  intro a b ha hb hab heq
  have hcount : a.fileCount = b.fileCount := by
    rw [(mem_crowded.mp ha).2.2.1, (mem_crowded.mp hb).2.2.1, heq]
  rcases hab with hlt | ⟨_, hlt⟩
  · omega
  · exact String.ne_of_lt hlt heq

/-- The folders for a higher threshold are those of the list that have so many files. -/
theorem crowded_eq_filter (t : FolderTree) (h : threshold ≤ higher) :
    t.crowded higher = (t.crowded threshold).filter (higher ≤ ·.fileCount) := by
  refine (t.crowded_sorted higher).eq_of_mem_iff ((t.crowded_sorted threshold).filter _) ?_
  intro f
  rw [List.mem_filter, mem_crowded, mem_crowded, decide_eq_true_eq]
  constructor
  · rintro ⟨hname, hroot, hcount, hmany⟩
    exact ⟨⟨hname, hroot, hcount, h.trans hmany⟩, hmany⟩
  · rintro ⟨⟨hname, hroot, hcount, _⟩, hmany⟩
    exact ⟨hname, hroot, hcount, hmany⟩

/-- In a list with the larger counts first, those that are large enough stand in front. -/
theorem filter_prefix_of_decreasing {l : List CrowdedFolder}
    (h : l.Pairwise fun a b => b.fileCount ≤ a.fileCount) (threshold : Nat) :
    l.filter (threshold ≤ ·.fileCount) <+: l := by
  induction l with
  | nil => exact List.prefix_refl _
  | cons f rest ih =>
    have hrest := List.Pairwise.of_cons h
    by_cases hf : threshold ≤ f.fileCount
    · rw [List.filter_cons_of_pos (by simpa using hf)]
      exact (List.prefix_cons_inj f).mpr (ih hrest)
    · have hnone : (f :: rest).filter (threshold ≤ ·.fileCount) = [] := by
        refine Descending.filter_eq_nil h fun g hg => ?_
        have hmany : threshold ≤ g.fileCount := of_decide_eq_true hg
        omega
      rw [hnone]
      exact List.nil_prefix

/-- The crowded folders are the folders below the base folder with enough files of their own, each
once, with the number of these files; more files come first, and of equally many the smaller path.
A higher threshold only cuts the list off. -/
theorem crowded_lists (t : FolderTree) (threshold : Nat) :
    (∀ f, f ∈ t.crowded threshold ↔ f.path ∈ t.names ∧ f.path ≠ Path.root ∧
      f.fileCount = t.fileCount f.path ∧ threshold ≤ f.fileCount) ∧
    ((t.crowded threshold).map (·.path)).Nodup ∧
    (t.crowded threshold).Pairwise CrowdedFolder.Precedes ∧
    ∀ higher, threshold ≤ higher → t.crowded higher <+: t.crowded threshold := by
  refine ⟨fun _ => mem_crowded, t.crowded_nodup threshold, t.crowded_sorted threshold, ?_⟩
  intro higher h
  rw [t.crowded_eq_filter h]
  refine filter_prefix_of_decreasing ((t.crowded_sorted threshold).imp ?_) higher
  intro a b hab
  rcases hab with hlt | ⟨heq, _⟩
  · exact hlt.le
  · exact heq.ge

/-- Two folders with equally many files stand before one with fewer, in the order of their paths. -/
theorem crowded_lists_ties :
    let t := ofFiles ["top", "a/x", "c/x", "c/y", "b/x", "b/y"]
    t.crowded 1 = [⟨"b", 2⟩, ⟨"c", 2⟩, ⟨"a", 1⟩] ∧ 1 ≤ 2 ∧ t.crowded 2 <+: t.crowded 1 := by
  intro t
  have hentries : t.folders.entries =
      [(".", ["top"]), ("a", ["x"]), ("b", ["x", "y"]), ("c", ["x", "y"])] := by
    decide
  refine ⟨?_, by decide, (crowded_lists t 1).2.2.2 2 (by decide)⟩
  simp [crowded, hentries, Path.root, List.mergeSort, List.MergeSort.Internal.splitInTwo]

end FolderTree

end ImportSurvey
