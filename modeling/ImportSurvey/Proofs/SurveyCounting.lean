import Mathlib.Algebra.GroupWithZero.Nat
import Mathlib.Data.List.Nodup
import Mathlib.Data.List.Perm.Subperm
import ImportSurvey.Proofs.CountedFiles
import ImportSurvey.Proofs.SurveyCoherence

namespace ImportSurvey

/-- The files, the records and the tree of a survey count each file once. -/
structure Survey.CountsOnce (s : Survey) : Prop where
  nodup : s.files.Nodup
  records_size : s.records.size = s.files.length
  tree_sum : (s.tree.names.map s.tree.fileCount).sum = s.files.length

theorem Catalog.size_eq_length_iff {α : Type} {c : Catalog α} {list : List String}
    (h : ∀ key, key ∈ c.keys ↔ key ∈ list) : c.size = list.length ↔ list.Nodup := by
  have hsize : c.keys.length = c.size := List.length_map ..
  rw [← hsize]
  constructor
  · intro hlength
    have hsub : c.keys.Subperm list := c.keys_nodup.subperm fun key hk => (h key).mp hk
    exact (hsub.perm_of_length_le (Nat.le_of_eq hlength.symm)).nodup_iff.mp c.keys_nodup
  · intro hnodup
    exact ((List.perm_ext_iff_of_nodup c.keys_nodup hnodup).mpr h).length_eq

namespace Plan

variable {d : Disk} {p : Plan} {s : Survey}

theorem countsOnce_iff_nodup (h : p.survey d = .ok s) : s.CountsOnce ↔ s.files.Nodup := by
  obtain ⟨issues, rfl⟩ := survey_eq_ofContents h
  have hcoherent := coherent_ofContents (p := p) issues (root_not_mem_contents d p)
  constructor
  · exact fun once => once.nodup
  · intro hnodup
    refine ⟨hnodup, (Catalog.size_eq_length_iff hcoherent.records_iff).mpr hnodup, ?_⟩
    rw [FolderTree.sum_fileCount, hcoherent.tree_eq, FolderTree.total_ofFiles]

/-- A survey of a legal disk counts each file once exactly if no counted file with backslashes on
its way has the path of another one. -/
theorem survey_countsOnce_iff (legal : d.root.Legal) (h : p.survey d = .ok s) :
    s.CountsOnce ↔ ∀ names ∈ p.counted d, (∃ name ∈ names, '\\' ∈ name.toList) →
      ∀ others ∈ p.counted d, walkPath others = walkPath names → others = names := by
  rw [countsOnce_iff_nodup h, survey_files h,
    List.nodup_map_iff_inj_on (counted_nodup legal p)]
  constructor
  · intro hinj names hn _ others ho heq
    exact hinj others ho names hn heq
  · intro hmarked names hn others ho heq
    by_cases hmark : ∃ name ∈ names, '\\' ∈ name.toList
    · exact (hmarked names hn hmark others ho heq.symm).symm
    · by_cases hmark' : ∃ name ∈ others, '\\' ∈ name.toList
      · exact hmarked others ho hmark' names hn heq
      · have hsegs := segments_of_mem_counted legal hn fun name hname hmem =>
          hmark ⟨name, hname, hmem⟩
        have hsegs' := segments_of_mem_counted legal ho fun name hname hmem =>
          hmark' ⟨name, hname, hmem⟩
        rw [← hsegs, ← hsegs', heq]

/-- A backslash in a name can give a file the path of another one. -/
theorem survey_not_countsOnce_of_shared_path :
    let inner : DiskEntry :=
      .folder true [("a", .folder true [("b.ts", .file true [])]), ("a\\b.ts", .file true [])]
    let d : Disk := ⟨.folder true [("base", inner)], "/"⟩
    let p : Plan := ⟨"/base", ["ts"], [⟨"()", .ofExpr (.group 1 .empty)⟩], .ofNames [], none,
      .bestEffort⟩
    d.root.Legal ∧ ∃ s, p.survey d = .ok s ∧ ¬s.CountsOnce := by
  intro inner d p
  have legal : d.root.Legal := by
    simp only [d, inner, DiskEntry.Legal, DiskEntry.LegalIn]
    decide
  have hbase : ∀ followLast, d.look followLast "/base" = .ok ⟨["base"], inner⟩ := fun _ =>
    Disk.look_of_reaches (by simp) (by decide) (by decide) (by decide) <|
      .idle (.inl rfl) (.folder ⟨by decide, by decide, _, _, rfl, rfl, rfl⟩ .here)
  have hread : d.look true (Place.join "/base" "a/b.ts") =
      .ok ⟨["base", "a", "b.ts"], .file true []⟩ := by
    rw [Place.join_relative _ (by simp), Place.lead, if_neg (by simp [Place.endsWith_slash_iff])]
    have hparts : Place.parts ("/base" ++ "/" ++ "a/b.ts") = ["", "base", "a", "b.ts"] := by
      decide
    exact Disk.look_of_reaches (by simp) (by decide) (by decide) hparts <|
      .idle (.inl rfl) <| .folder ⟨by decide, by decide, _, _, rfl, rfl, rfl⟩ <|
        .folder ⟨by decide, by decide, _, _, rfl, rfl, rfl⟩ <|
          .file ⟨by decide, by decide, _, _, rfl, rfl, rfl⟩
  have hcounted : ∀ names ∈ [["a", "b.ts"], ["a\\b.ts"]],
      walkPath names = "a/b.ts" ∧ names ∈ p.counted d := by
    intro names hn
    have hpath : walkPath names = "a/b.ts" := by
      revert names
      decide
    refine ⟨hpath, mem_counted_iff.mpr ⟨by decide, ?_, ?_, ?_⟩⟩
    · simp only [p, Disk.sights, hbase]
      revert names
      decide
    · rw [hpath]
      decide
    · rw [hpath, Disk.readLenient, Disk.readBytes, hread]
      exact ⟨_, rfl⟩
  obtain ⟨s, hs⟩ : ∃ s, p.survey d = .ok s := ⟨_, rfl⟩
  refine ⟨legal, s, hs, ?_⟩
  rw [survey_countsOnce_iff legal hs]
  intro hall
  obtain ⟨hplain, hplainCounted⟩ := hcounted ["a", "b.ts"] (by decide)
  obtain ⟨hmarked, hmarkedCounted⟩ := hcounted ["a\\b.ts"] (by decide)
  have heq := hall _ hmarkedCounted ⟨_, List.mem_cons_self, by decide⟩ _ hplainCounted
    (hplain.trans hmarked.symm)
  exact absurd heq (by decide)

end Plan

end ImportSurvey
