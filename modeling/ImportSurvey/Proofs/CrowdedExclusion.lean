import ImportSurvey.Proofs.CommandRuns
import ImportSurvey.Proofs.CrowdedOrder
import ImportSurvey.Proofs.SurveyConfinement

namespace ImportSurvey

namespace FolderTree

variable {t : FolderTree} {threshold : Nat} {excluded : List String}

theorem mem_crowded_iff {path : String} :
    path ∈ (t.crowded threshold).map (·.path) ↔
      path ∈ t.names ∧ path ≠ Path.root ∧ threshold ≤ t.fileCount path := by
  rw [List.mem_map]
  constructor
  · rintro ⟨f, hf, rfl⟩
    obtain ⟨hname, hroot, hcount, hmany⟩ := mem_crowded.mp hf
    exact ⟨hname, hroot, hcount ▸ hmany⟩
  · rintro ⟨hname, hroot, hmany⟩
    exact ⟨⟨path, t.fileCount path⟩, mem_crowded.mpr ⟨hname, hroot, rfl, hmany⟩, rfl⟩

/-- A folder that stays keeps its files, so that it is crowded only if it was so before. -/
theorem crowded_without_eq_nil
    (h : ∀ path ∈ (t.crowded threshold).map (·.path), path ∈ excluded) :
    (t.without excluded).crowded threshold = [] := by
  have hnone : ∀ path, path ∉ ((t.without excluded).crowded threshold).map (·.path) := by
    intro path hpath
    obtain ⟨hmem, hroot, hmany⟩ := mem_crowded_iff.mp hpath
    obtain ⟨hbefore, hout⟩ := mem_names_without.mp hmem
    rw [fileCount, filesIn_without, if_pos hout] at hmany
    have hcrowded := h path (mem_crowded_iff.mpr ⟨hbefore, hroot, hmany⟩)
    have hself : excluded.any (Path.within path) :=
      List.any_eq_true.mpr ⟨path, hcrowded, by simp [Path.within]⟩
    simp [hself] at hout
  simpa using List.eq_nil_iff_forall_not_mem.mpr hnone

end FolderTree

variable {d : Disk}

/-- Without backslashes in names every folder of a survey has a path of normal form. -/
theorem Plan.normal_of_mem_names {p : Plan} {all : Survey} {folder : String}
    (legal : d.root.Legal) (free : d.root.NamesAll fun name => '\\' ∉ name.toList)
    (h : p.survey d = .ok all) (hf : folder ∈ all.tree.names) : Path.Normal folder := by
  have hinside : ∀ names ∈ p.counted d, p.KeepsInside d names := fun names hn =>
    keepsInside_of_free legal hn (forall_names_of_mem_counted free hn)
  exact ((confined_iff_keepsInside h).mpr hinside).folders folder hf

namespace Settings

variable {s : Settings} {found : Survey}

/-- Of the tree stays what lies neither in a crowded folder nor in one that the settings exclude. -/
theorem tree_of_survey (legal : d.root.Legal)
    (free : d.root.NamesAll fun name => '\\' ∉ name.toList) (hcrowded : s.excludeCrowded)
    (h : s.survey d = .ok found) : ∃ p all, s.plan d = .ok p ∧ p.survey d = .ok all ∧
      found.tree = all.tree.without
        (Survey.exclusions s.exclude ++ (all.tree.crowded s.crowdedFrom).map (·.path)) := by
  obtain ⟨p, all, hplan, hall, rfl⟩ := survey_eq_ok_iff.mp h
  refine ⟨p, all, hplan, hall, ?_⟩
  have hnormal : ∀ path ∈ (all.tree.crowded s.crowdedFrom).map (·.path),
      Path.Normal path ∧ path ≠ Path.root := by
    intro path hp
    obtain ⟨hmem, hroot, _⟩ := FolderTree.mem_crowded_iff.mp hp
    exact ⟨p.normal_of_mem_names legal free hall hmem, hroot⟩
  rw [Survey.tree_without, exclusions, if_pos hcrowded, Survey.exclusions_append,
    Survey.exclusions_of_normal hnormal]

theorem crowded_survey_eq_nil (legal : d.root.Legal)
    (free : d.root.NamesAll fun name => '\\' ∉ name.toList) (hcrowded : s.excludeCrowded)
    (h : s.survey d = .ok found) : found.tree.crowded s.crowdedFrom = [] := by
  obtain ⟨p, all, _, _, htree⟩ := tree_of_survey legal free hcrowded h
  rw [htree]
  exact FolderTree.crowded_without_eq_nil fun path hp => List.mem_append_right _ hp

theorem excludeCrowded_of_ofOptions {o : ScanOptions} (h : ofOptions d o = .ok s)
    (hcrowded : o.excludeCrowded) : s.excludeCrowded := by
  obtain ⟨base, loaded, aliases, _, _, _, rfl⟩ := ofOptions_eq_ok_iff.mp h
  simp [override, hcrowded]

/-- If crowded folders are excluded, the survey has none. Of the folders that it would have without
exclusions it lacks those that lie in a crowded folder or in one that the settings exclude. And
listing the crowded folders never fails for having found some. -/
theorem survey_none_crowded (legal : d.root.Legal)
    (free : d.root.NamesAll fun name => '\\' ∉ name.toList) :
    (∀ (s : Settings) (found : Survey), s.excludeCrowded → s.survey d = .ok found →
      found.tree.crowded s.crowdedFrom = [] ∧
        ∃ p all, s.plan d = .ok p ∧ p.survey d = .ok all ∧
          ∀ folder ∈ all.tree.names, folder ∉ found.tree.names ↔
            (∃ c ∈ all.tree.crowded s.crowdedFrom, Path.within folder c.path) ∨
              ∃ e ∈ Survey.exclusions s.exclude, Path.within folder e) ∧
      ∀ (coloured json strict : Bool) (options : ScanOptions) (answer : Answer),
        options.excludeCrowded →
        Command.run d coloured ⟨.listCrowded json strict, options⟩ = .ok answer →
        answer.exit ≠ .checkFailed := by
  constructor
  · intro s found hcrowded h
    obtain ⟨p, all, hplan, hall, htree⟩ := tree_of_survey legal free hcrowded h
    refine ⟨crowded_survey_eq_nil legal free hcrowded h, p, all, hplan, hall, fun folder hf => ?_⟩
    rw [htree, FolderTree.mem_names_without, and_iff_right hf]
    simp only [List.any_append, Bool.not_eq_true', Bool.not_eq_false, Bool.or_eq_true,
      List.any_map, List.any_eq_true, Function.comp_apply]
    exact or_comm
  · intro coloured json strict options answer hcrowded hrun
    obtain ⟨s, found, hs, hfound, rfl⟩ := Command.run_eq_ok_iff.mp hrun
    have hnone := crowded_survey_eq_nil legal free (excludeCrowded_of_ofOptions hs hcrowded) hfound
    rw [Command.perform, Command.listCrowded, Command.exit_checked, hnone]
    simp

/-- A folder with two files is left out, and one whose name only begins in the same way stays. -/
theorem survey_none_crowded_from_two :
    let crowd : DiskEntry := .folder true [("x.ts", .file true []), ("y.ts", .file true [])]
    let d : Disk :=
      ⟨.folder true [("a", crowd), ("ab", .folder true [("z.ts", .file true [])])], "/"⟩
    let options : ScanOptions :=
      { base := "/", extensions := ["ts"], patterns := ["()"], excludeCrowded := true,
        crowdedFrom := some 2, noAliases := true, bestEffort := true }
    d.root.Legal ∧ (d.root.NamesAll fun name => '\\' ∉ name.toList) ∧
      ∃ s found answer, ofOptions d options = .ok s ∧ s.survey d = .ok found ∧
        found.tree.crowded 2 = [] ∧ "a" ∉ found.tree.names ∧ "ab" ∈ found.tree.names ∧
        Command.run d false ⟨.listCrowded false true, options⟩ = .ok answer ∧
        answer.exit ≠ .checkFailed := by
  intro crowd d options
  have legal : d.root.Legal := by
    simp only [d, crowd, DiskEntry.Legal, DiskEntry.LegalIn]
    decide
  have free : d.root.NamesAll fun name => '\\' ∉ name.toList := by
    simp only [d, crowd, DiskEntry.NamesAll, DiskEntry.NamesAllIn]
    decide
  let s : Settings := (ofBase "/").override options []
  have hroot : d.root.isFolder := rfl
  have hsettings : ofOptions d options = .ok s := by
    have hmissing : d.look true ("/" ++ SettingsFile.name) = .error .missing := by
      simp [Disk.look, Disk.maxPlace, SettingsFile.name]
      rfl
    exact ofOptions_slash hroot (by simp [Disk.isFile, hmissing]) rfl rfl
  obtain ⟨pattern, hpattern⟩ : ∃ pattern, ImportPattern.ofText "()" = .ok pattern := by
    have h : (ImportPattern.ofText "()").toOption.isSome := by decide +kernel
    cases hpattern : ImportPattern.ofText "()" with
    | error fault => simp [hpattern, Except.toOption] at h
    | ok pattern => exact ⟨pattern, rfl⟩
  let p : Plan := ⟨"/", ["ts"], [pattern], .ofNames skippedAlways, none, .bestEffort⟩
  have hplan : s.plan d = .ok p := by
    have hpatterns : s.planPatterns = ["()"] := firstOccurrences_of_nodup (by decide)
    have hextensions : s.planExtensions = ["ts"] :=
      @firstOccurrences_of_nodup ["ts"] (by decide)
    rw [plan_of_pattern hpatterns hpattern, hextensions]
    rfl
  have hcounted : p.counted d = [["a", "x.ts"], ["a", "y.ts"], ["ab", "z.ts"]] := by
    have hsights : (d.sights p.skipDirs.contains p.base).filterMap Sight.fileNames? =
        [["a", "x.ts"], ["a", "y.ts"], ["ab", "z.ts"]] := by
      simp only [Disk.sights, p, Disk.look_slash hroot]
      decide
    have hscoped : ¬p.isUnscoped := Bool.false_ne_true
    rw [Plan.counted, if_neg hscoped, hsights, List.filter_eq_self]
    intro names hn
    have hlegal : (∀ name ∈ names, DiskEntry.LegalName name ∧ name.utf8ByteSize ≤ Disk.maxName) ∧
        Disk.Fits (Place.ofNames names) := by
      revert names
      decide
    have hfile : d.root.below? names = some (.file true []) := by
      simp only [List.mem_cons, List.not_mem_nil, or_false] at hn
      rcases hn with rfl | rfl | rfl
      all_goals rfl
    have hnamed : Plan.hasExtension ["ts"] (walkPath names) ∧
        Place.join "/" (walkPath names) = Place.ofNames names := by
      clear hlegal hfile
      revert names
      decide +kernel
    have hlook := Disk.look_of_below? hroot hlegal.1 hlegal.2 hfile (by simp)
    rw [Bool.and_eq_true, Plan.isSome_text?_read_iff]
    refine ⟨hnamed.1, Text.Utf8.lenient [], ?_⟩
    rw [show p.base = "/" from rfl, hnamed.2, Disk.readLenient, Disk.readBytes, hlook]
    rfl
  obtain ⟨all, hall, htree⟩ : ∃ all, p.survey d = .ok all ∧
      all.tree = .ofFiles ["a/x.ts", "a/y.ts", "ab/z.ts"] := by
    refine ⟨_, Plan.survey_of_bestEffort rfl d, congrArg FolderTree.ofFiles ?_⟩
    rw [Plan.contents_paths, hcounted]
    decide
  have hfound := survey_eq_ok_iff.mpr ⟨p, all, hplan, hall, rfl⟩
  obtain ⟨hnone, q, rest, hq, hrest, hleft⟩ := (survey_none_crowded legal free).1 s _ rfl hfound
  cases Except.ok.inj (hplan.symm.trans hq)
  cases Except.ok.inj (hall.symm.trans hrest)
  have hcrowded : all.tree.crowded 2 = [⟨"a", 2⟩] := by
    have hentries : all.tree.folders.entries = [("a", ["x.ts", "y.ts"]), ("ab", ["z.ts"])] := by
      rw [htree]
      decide
    simp [FolderTree.crowded, hentries, Path.root]
  have hnames : all.tree.names = ["a", "ab"] := by
    rw [htree]
    decide
  rw [hnames, show s.crowdedFrom = 2 from rfl, hcrowded, show s.exclude = [] from rfl] at hleft
  have hrun : Command.run d false ⟨.listCrowded false true, options⟩ = .ok _ :=
    Command.run_eq_ok_iff.mpr ⟨s, _, hsettings, hfound, rfl⟩
  refine ⟨legal, free, s, _, _, hsettings, hfound, hnone, ?_, ?_, hrun, ?_⟩
  · exact (hleft "a" (.head _)).mpr (.inl ⟨_, .head _, by decide⟩)
  · refine Classical.not_not.mp (mt (hleft "ab" (.tail _ (.head _))).mp ?_)
    decide
  · exact (survey_none_crowded legal free).2 false false true options _ rfl hrun

end Settings

end ImportSurvey
