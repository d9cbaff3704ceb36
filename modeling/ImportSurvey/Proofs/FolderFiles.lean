import Mathlib.Algebra.GroupWithZero.Nat
import ImportSurvey.Folder.Tree
import ImportSurvey.Proofs.CatalogLookup
import ImportSurvey.Proofs.PathParent

namespace ImportSurvey.FolderTree

theorem filesIn_addFile (t : FolderTree) (file folder : String) :
    (t.addFile file).filesIn folder =
      t.filesIn folder ++ if folder = Path.parent file then [Path.leaf file] else [] := by
  unfold filesIn addFile
  rw [Catalog.get?_alter]
  by_cases h : folder = Path.parent file
  · simp [h]
  · simp [h]

theorem filesIn_foldl_addFile (t : FolderTree) (files : List String) (folder : String) :
    (files.foldl addFile t).filesIn folder =
      t.filesIn folder ++ (files.filter (folder == Path.parent ·)).map Path.leaf := by
  induction files generalizing t with
  | nil => simp
  | cons file rest ih =>
    rw [List.foldl_cons, ih, filesIn_addFile, List.append_assoc]
    by_cases h : folder = Path.parent file
    · simp [h]
    · simp [h]

/-- A folder holds the names of the files whose folder it is, in their order. -/
theorem filesIn_ofFiles (files : List String) (folder : String) :
    (ofFiles files).filesIn folder =
      (files.filter (folder == Path.parent ·)).map Path.leaf :=
  filesIn_foldl_addFile empty files folder

/-- A folder holds a name as often as the file of that name was given. -/
theorem count_filesIn_ofFiles {files : List String} {file : String}
    (normal : ∀ f ∈ files, Path.Normal f) (h : Path.Normal file) :
    ((ofFiles files).filesIn (Path.parent file)).count (Path.leaf file) = files.count file := by
  rw [filesIn_ofFiles, List.count, List.count, List.countP_map, List.countP_filter]
  refine List.countP_congr fun f hf => ?_
  simp only [Function.comp_apply, Bool.and_eq_true, beq_iff_eq]
  constructor
  · rintro ⟨hleaf, hparent⟩
    rw [← Path.inFolder_parent_leaf (normal f hf), ← Path.inFolder_parent_leaf h, hleaf, hparent]
  · rintro rfl
    exact ⟨rfl, rfl⟩

theorem mem_names_addFile (t : FolderTree) (file folder : String) :
    folder ∈ (t.addFile file).names ↔ folder ∈ t.names ∨ folder = Path.parent file := by
  rw [names, addFile, Catalog.keys_alter]
  exact or_comm

/-- The folders are those of the files. -/
theorem mem_names_ofFiles {files : List String} {folder : String} :
    folder ∈ (ofFiles files).names ↔ ∃ file ∈ files, folder = Path.parent file := by
  refine (foldl_iff (P := fun t : FolderTree => folder ∈ t.names)
    (fun t file => t.mem_names_addFile file folder) empty files).trans ?_
  simp [names, Catalog.keys, empty, Catalog.empty]

theorem fileCount_pos_iff {files : List String} {folder : String} :
    0 < (ofFiles files).fileCount folder ↔ folder ∈ (ofFiles files).names := by
  rw [fileCount, List.length_pos_iff, filesIn_ofFiles, mem_names_ofFiles]
  simp

/-- The paths of all files, folder by folder. -/
def paths (t : FolderTree) : List String :=
  t.folders.entries.flatMap fun e => e.2.map (Path.inFolder e.1)

theorem total_eq_length_paths (t : FolderTree) : t.total = t.paths.length := by
  simp only [total, paths, List.length_flatMap, List.length_map, List.sum_eq_foldr, List.foldr_map]

theorem flatMap_alterEntries {key name : String} {change : Option (List String) → List String}
    {entries : List (String × List String)}
    (adds : ∀ old, change old = old.getD [] ++ [name]) :
    ((Catalog.alterEntries key change entries).flatMap fun e => e.2.map (Path.inFolder e.1)).Perm
      (Path.inFolder key name :: entries.flatMap fun e => e.2.map (Path.inFolder e.1)) := by
  induction entries with
  | nil => simp [Catalog.alterEntries, adds]
  | cons entry rest ih =>
    simp only [Catalog.alterEntries]
    split
    next => simp [adds]
    next =>
      split
      next heq =>
        simp only [List.flatMap_cons, adds, Option.getD_some, List.map_append, List.map_cons,
          List.map_nil, heq, List.append_assoc, List.singleton_append]
        exact List.perm_middle
      next =>
        rw [List.flatMap_cons, List.flatMap_cons]
        exact (ih.append_left _).trans List.perm_middle

/-- Adding a file adds one path, and takes nothing away. -/
theorem paths_addFile (t : FolderTree) (file : String) :
    (t.addFile file).paths.Perm (Path.inFolder (Path.parent file) (Path.leaf file) :: t.paths) :=
  flatMap_alterEntries fun _ => rfl

theorem paths_foldl_addFile (t : FolderTree) (files : List String) :
    (files.foldl addFile t).paths.Perm
      (files.map (fun file => Path.inFolder (Path.parent file) (Path.leaf file)) ++ t.paths) := by
  induction files generalizing t with
  | nil => exact .refl _
  | cons file rest ih =>
    have hstep := (t.paths_addFile file).append_left
      (rest.map fun file => Path.inFolder (Path.parent file) (Path.leaf file))
    exact (ih (t.addFile file)).trans (hstep.trans List.perm_middle)

/-- The paths are those of the files, in another order. -/
theorem paths_ofFiles (files : List String) : (ofFiles files).paths.Perm
    (files.map fun file => Path.inFolder (Path.parent file) (Path.leaf file)) := by
  have hall := paths_foldl_addFile empty files
  rwa [show empty.paths = [] from rfl, List.append_nil] at hall

/-- No file is lost and none is counted twice. -/
theorem total_ofFiles (files : List String) : (ofFiles files).total = files.length := by
  rw [total_eq_length_paths, (paths_ofFiles files).length_eq, List.length_map]

/-- Grouping files by folders loses nothing: the folders are those of the files, none is empty, each
holds the names of its files in the order in which they were given, and putting folders and names
together again gives the files, as often as they were given. -/
theorem ofFiles_lossless {files : List String} (normal : ∀ file ∈ files, Path.Normal file) :
    (∀ folder, folder ∈ (ofFiles files).names ↔ ∃ file ∈ files, folder = Path.parent file) ∧
      (∀ folder ∈ (ofFiles files).names, (ofFiles files).filesIn folder ≠ []) ∧
      (∀ folder, (ofFiles files).filesIn folder =
        (files.filter (folder == Path.parent ·)).map Path.leaf) ∧
      (ofFiles files).paths.Perm files := by
  refine ⟨fun folder => mem_names_ofFiles, fun folder hf => ?_, filesIn_ofFiles files, ?_⟩
  · exact List.length_pos_iff.mp (fileCount_pos_iff.mpr hf)
  · have hback : files.map (fun file => Path.inFolder (Path.parent file) (Path.leaf file)) = files :=
      (List.map_congr_left fun file hf => Path.inFolder_parent_leaf (normal file hf)).trans
        (List.map_id _)
    exact (paths_ofFiles files).trans (.of_eq hback)

/-- Files of three folders mixed, one of them twice. -/
theorem ofFiles_lossless_mixed :
    let files := ["a/b/z.ts", "m.ts", "a/y.ts", "a/b/z.ts", "n.ts", "a/x.ts"]
    (∀ file ∈ files, Path.Normal file) ∧ (ofFiles files).names = [".", "a", "a/b"] ∧
      (ofFiles files).filesIn "a" = ["y.ts", "x.ts"] ∧ (ofFiles files).filesIn "a/b" ≠ [] ∧
      (ofFiles files).paths.Perm files := by
  intro files
  have normal : ∀ file ∈ files, Path.Normal file := by decide
  obtain ⟨_, hfull, hfiles, hperm⟩ := ofFiles_lossless normal
  have hnames : (ofFiles files).names = [".", "a", "a/b"] := by decide
  exact ⟨normal, hnames, by rw [hfiles]; decide, hfull "a/b" (by simp [hnames]), hperm⟩

theorem sum_fileCount (t : FolderTree) : (t.names.map t.fileCount).sum = t.total := by
  have hcount : ∀ e ∈ t.folders.entries, t.fileCount e.1 = e.2.length := by
    intro e he
    simp [fileCount, filesIn, Catalog.get?_eq_some_iff.mpr he]
  have hmap : t.names.map t.fileCount = t.folders.entries.map (·.2.length) := by
    rw [names, Catalog.keys, List.map_map]
    exact List.map_congr_left hcount
  rw [hmap, total, List.sum_eq_foldr, List.foldr_map]

theorem get?_folders (t : FolderTree) (folder : String) :
    t.folders.get? folder = if folder ∈ t.names then some (t.filesIn folder) else none := by
  unfold names filesIn
  cases h : t.folders.get? folder with
  | none => simp [Catalog.mem_keys_iff, h]
  | some files => simp [Catalog.mem_keys_iff, h]

/-- A tree is determined by its folders and by the files in each of them. -/
theorem ext_filesIn {t u : FolderTree} (hnames : ∀ folder, folder ∈ t.names ↔ folder ∈ u.names)
    (hfiles : ∀ folder, t.filesIn folder = u.filesIn folder) : t = u := by
  have hfolders : t.folders = u.folders := Catalog.ext_get? fun folder => by
    simp only [get?_folders, hnames, hfiles]
  cases t
  cases u
  cases hfolders
  rfl

theorem mem_names_without {t : FolderTree} {excluded : List String} {folder : String} :
    folder ∈ (t.without excluded).names ↔
      folder ∈ t.names ∧ !excluded.any (Path.within folder) := by
  simp [names, without]

theorem filesIn_without (t : FolderTree) (excluded : List String) (folder : String) :
    (t.without excluded).filesIn folder =
      if !excluded.any (Path.within folder) then t.filesIn folder else [] := by
  unfold filesIn without
  rw [Catalog.get?_filterKeys]
  split <;> rfl

/-- Leaving folders out of the tree of some files gives the tree of the files that are kept exactly
if every file is kept that lies in none of these folders. -/
theorem without_ofFiles_iff {files excluded : List String} {kept : String → Bool}
    (hkept : ∀ file, kept file → !excluded.any (Path.within (Path.parent file))) :
    (ofFiles files).without excluded = ofFiles (files.filter kept) ↔
      ∀ file ∈ files, !excluded.any (Path.within (Path.parent file)) → kept file := by
  constructor
  · intro h file hm hparent
    have hfiles := congrArg (·.filesIn (Path.parent file)) h
    simp only [filesIn_without, hparent, if_true, filesIn_ofFiles] at hfiles
    have hlength := congrArg List.length hfiles
    rw [List.length_map, List.length_map, List.filter_comm, eq_comm,
      List.length_filter_eq_length_iff] at hlength
    exact hlength file (by simp [hm])
  · intro h
    refine ext_filesIn (fun folder => ?_) fun folder => ?_
    · rw [mem_names_without, mem_names_ofFiles, mem_names_ofFiles]
      constructor
      · rintro ⟨⟨file, hm, rfl⟩, hout⟩
        exact ⟨file, List.mem_filter.mpr ⟨hm, h file hm hout⟩, rfl⟩
      · rintro ⟨file, hm, rfl⟩
        obtain ⟨hm, hk⟩ := List.mem_filter.mp hm
        exact ⟨⟨file, hm, rfl⟩, hkept file hk⟩
    · rw [filesIn_without, filesIn_ofFiles, filesIn_ofFiles, List.filter_filter]
      split
      next hout =>
        refine congrArg (List.map Path.leaf) (List.filter_congr fun file hm => ?_)
        by_cases hf : folder = Path.parent file
        · simp [hf, h file hm (hf ▸ hout)]
        · simp [hf]
      next hin =>
        rw [eq_comm, List.map_eq_nil_iff, List.filter_eq_nil_iff]
        intro file _ hm
        obtain ⟨hf, hk⟩ := by simpa using hm
        exact hin (hf ▸ hkept file hk)

theorem names_nodup (t : FolderTree) : t.names.Nodup := t.folders.keys_nodup

theorem length_names (t : FolderTree) : t.names.length = t.size := List.length_map ..

theorem mem_names_of_mem_filesIn {t : FolderTree} {folder name : String}
    (h : name ∈ t.filesIn folder) : folder ∈ t.names := by
  unfold filesIn at h
  cases hget : t.folders.get? folder with
  | none => simp [hget] at h
  | some files => exact Catalog.mem_keys_iff.mpr ⟨files, hget⟩

/-- Every folder of the tree has a name, and the names of the files are single segments. -/
structure Plain (t : FolderTree) : Prop where
  folder_ne : ∀ folder ∈ t.names, folder ≠ ""
  name_free : ∀ folder, ∀ name ∈ t.filesIn folder, '/' ∉ name.toList

theorem plain_ofFiles (files : List String) : (ofFiles files).Plain where
  folder_ne folder hf := by
    obtain ⟨file, _, rfl⟩ := mem_names_ofFiles.mp hf
    exact Path.parent_ne_empty file
  name_free folder name hn := by
    rw [filesIn_ofFiles] at hn
    obtain ⟨file, _, rfl⟩ := List.mem_map.mp hn
    exact Path.slash_not_mem_leaf file

theorem Plain.without {t : FolderTree} (plain : t.Plain) (excluded : List String) :
    (t.without excluded).Plain where
  folder_ne folder hf := plain.folder_ne folder (mem_names_without.mp hf).1
  name_free folder name hn := by
    rw [filesIn_without] at hn
    split at hn
    next => exact plain.name_free folder name hn
    next => simp at hn

end ImportSurvey.FolderTree
