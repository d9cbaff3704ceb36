import ImportSurvey.Proofs.CleanFolders
import ImportSurvey.Proofs.FolderFiles
import ImportSurvey.Proofs.PathWithin
import ImportSurvey.Survey

namespace ImportSurvey.Survey

variable {s : Survey} {excluded : List String} {path : String}

/-- Whether a path lies in none of the excluded folders. -/
def outside (excluded : List String) (path : String) : Bool :=
  !(exclusions excluded).any (Path.within path)

theorem mem_exclusions_iff :
    path ∈ exclusions excluded ↔
      (path ≠ "" ∧ path ≠ Path.root) ∧ ∃ text ∈ excluded, cleanExclusion text = path := by
  simp only [exclusions, List.mem_filter, List.mem_map, Bool.and_eq_true, Bool.not_eq_true',
    String.isEmpty_eq_false_iff, bne_iff_ne]
  exact and_comm

theorem ne_of_mem_exclusions (h : path ∈ exclusions excluded) : path ≠ "" ∧ path ≠ Path.root :=
  (mem_exclusions_iff.mp h).1

theorem exclusions_append (first second : List String) :
    exclusions (first ++ second) = exclusions first ++ exclusions second := by
  simp [exclusions]

theorem cleanExclusion_of_normal (h : Path.Normal path) : cleanExclusion path = path := by
  have hclean := Alias.clean_of_normal h
  rw [cleanExclusion, Alias.dropTrailing_dropDotSlashes hclean, String.ofList_toList]

/-- Paths of normal form below the base folder are excluded as they are. -/
theorem exclusions_of_normal (h : ∀ path ∈ excluded, Path.Normal path ∧ path ≠ Path.root) :
    exclusions excluded = excluded := by
  have hclean : excluded.map cleanExclusion = excluded :=
    (List.map_congr_left fun path hp => cleanExclusion_of_normal (h path hp).1).trans
      (List.map_id _)
  rw [exclusions, hclean, List.filter_eq_self]
  intro path hp
  have hne := Path.ne_empty_of_normal (h path hp).1
  simp [hne, (h path hp).2]

theorem outside_iff : outside excluded path ↔ ∀ e ∈ exclusions excluded, ¬Path.within path e := by
  simp [outside]

/-- A path stays if its folder stays and it is not excluded itself. -/
theorem outside_iff_parent :
    outside excluded path ↔ path ∉ exclusions excluded ∧ outside excluded (Path.parent path) := by
  rw [outside_iff, outside_iff]
  constructor
  · intro h
    refine ⟨fun hm => ?_, fun e he hw => ?_⟩
    · obtain ⟨hne, hroot⟩ := ne_of_mem_exclusions hm
      exact h path hm ((Path.within_iff_parent hne hroot).mpr (.inl rfl))
    · obtain ⟨hne, hroot⟩ := ne_of_mem_exclusions he
      exact h e he ((Path.within_iff_parent hne hroot).mpr (.inr hw))
  · rintro ⟨hnot, h⟩ e he hw
    obtain ⟨hne, hroot⟩ := ne_of_mem_exclusions he
    rcases (Path.within_iff_parent hne hroot).mp hw with rfl | hw
    · exact hnot he
    · exact h e he hw

@[simp]
theorem files_without (s : Survey) (excluded : List String) :
    (s.without excluded).files = s.files.filter (outside excluded) := rfl

@[simp]
theorem records_without (s : Survey) (excluded : List String) :
    (s.without excluded).records = s.records.filterKeys (outside excluded) := rfl

@[simp]
theorem tree_without (s : Survey) (excluded : List String) :
    (s.without excluded).tree = s.tree.without (exclusions excluded) := rfl

/-- What a survey tells about some paths only. -/
def only (s : Survey) (kept : String → Bool) : Survey :=
  ⟨s.base, ⟨s.tree.folders.filterKeys kept⟩, s.files.filter kept, s.records.filterKeys kept,
    s.issues⟩

/-- The paths that a survey tells about: files, those with records, and folders. -/
def shown (s : Survey) : List String := s.files ++ s.records.keys ++ s.tree.names

theorem without_eq_only (s : Survey) (excluded : List String) :
    s.without excluded = s.only (outside excluded) := rfl

theorem only_only (s : Survey) (first second : String → Bool) :
    (s.only first).only second = s.only fun path => first path && second path := by
  simp only [only, Catalog.filterKeys_filterKeys, List.filter_filter, Bool.and_comm]

theorem only_eq_only_iff {first second : String → Bool} :
    s.only first = s.only second ↔ ∀ path ∈ s.shown, first path = second path := by
  simp only [only, shown, Survey.mk.injEq, FolderTree.mk.injEq, Catalog.filterKeys_eq_iff,
    Catalog.filter_eq_filter_iff, List.mem_append, FolderTree.names, true_and, and_true]
  constructor
  · rintro ⟨htree, hfiles, hrecords⟩ path ((hp | hp) | hp)
    · exact hfiles path hp
    · exact hrecords path hp
    · exact htree path hp
  · intro h
    exact ⟨fun path hp => h path (.inr hp), fun path hp => h path (.inl (.inl hp)),
      fun path hp => h path (.inl (.inr hp))⟩

theorem only_true (s : Survey) : (s.only fun _ => true) = s := by
  have hall : ∀ {α : Type} (c : Catalog α), (c.filterKeys fun _ => true) = c := fun c =>
    Catalog.ext_get? fun key => by rw [Catalog.get?_filterKeys, if_pos rfl]
  simp only [only, hall, List.filter_true]

theorem only_eq_self_iff {kept : String → Bool} : s.only kept = s ↔ ∀ path ∈ s.shown, kept path := by
  conv_lhs => rhs; rw [← only_true s]
  exact only_eq_only_iff

theorem without_nil (s : Survey) : s.without [] = s :=
  only_eq_self_iff.mpr fun path _ => by simp [exclusions]

/-- The tree and the records of a survey are about the files that it lists. -/
structure Aligned (s : Survey) : Prop where
  tree_eq : s.tree = .ofFiles s.files
  records_iff : ∀ path, path ∈ s.records.keys ↔ path ∈ s.files

/-- Leaving folders out keeps the files, the records and the tree in step exactly if each excluded
path that is a file lies in an excluded folder as well. Otherwise the tree still shows the file. -/
theorem aligned_without_iff (aligned : s.Aligned) :
    (s.without excluded).Aligned ↔
      ∀ file ∈ s.files, file ∈ exclusions excluded → ¬outside excluded (Path.parent file) := by
  have hrecords : ∀ path, path ∈ (s.without excluded).records.keys ↔
      path ∈ (s.without excluded).files := fun path => by
    simp [aligned.records_iff]
  have hkept : ∀ file, (outside excluded (Path.parent file) → outside excluded file) ↔
      (file ∈ exclusions excluded → ¬outside excluded (Path.parent file)) := fun file => by
    rw [@outside_iff_parent excluded file]
    tauto
  calc (s.without excluded).Aligned
      ↔ (s.without excluded).tree = .ofFiles (s.without excluded).files :=
        ⟨fun h => h.tree_eq, fun h => ⟨h, hrecords⟩⟩
    _ ↔ ∀ file ∈ s.files, outside excluded (Path.parent file) → outside excluded file := by
        rw [tree_without, files_without, aligned.tree_eq]
        exact FolderTree.without_ofFiles_iff fun file h => (outside_iff_parent.mp h).2
    _ ↔ _ := forall₂_congr fun file _ => hkept file

/-- Excluding a file by its path takes it from the list and the records, but not from the tree. -/
theorem not_aligned_without_file :
    let s : Survey := ⟨"/base", .ofFiles ["a/x.ts", "a/y.ts"], ["a/x.ts", "a/y.ts"],
      .ofList [("a/x.ts", .empty), ("a/y.ts", .empty)], []⟩
    s.Aligned ∧ ¬(s.without ["./a/x.ts"]).Aligned := by
  intro s
  have aligned : s.Aligned := ⟨rfl, fun path => by simp [s, Catalog.mem_keys_ofList]⟩
  refine ⟨aligned, ?_⟩
  rw [aligned_without_iff aligned]
  intro hall
  exact hall "a/x.ts" (by decide) (by decide) (by decide)

end ImportSurvey.Survey
