import ImportSurvey.Proofs.CommandRuns
import ImportSurvey.Proofs.MutualPairs
import ImportSurvey.Proofs.SurveyCoherence

namespace ImportSurvey

namespace Command

variable {coloured : Bool}

/-- A dump fails if it is strict and there are pairs to report, in whatever form it is printed. -/
theorem exit_dump_eq_checkFailed_iff {json strict : Bool} {s : Survey} :
    (dump coloured json strict s).exit = .checkFailed ↔ strict ∧ s.mutualPairs ≠ [] := by
  rw [dump, exit_checked]
  cases strict <;> cases s.mutualPairs <;> simp

/-- A graph tells imports between folders exactly, and pairs once and in order; and a strict dump
that runs to its end fails if and only if two files import from each other's folders. -/
theorem strict_dump_exact :
    (∀ records : Catalog FileImports, (FolderGraph.ofRecords records).Tells records) ∧
      ∀ (d : Disk) (coloured json : Bool) (options : ScanOptions) (answer : Answer),
        Command.run d coloured ⟨.dump json true, options⟩ = .ok answer →
        ∃ settings s, Settings.ofOptions d options = .ok settings ∧
          settings.survey d = .ok s ∧
          (answer.exit = .checkFailed ↔ FolderGraph.ImportsBothWays s.records) := by
  refine ⟨FolderGraph.tells_ofRecords, fun d coloured json options answer h => ?_⟩
  obtain ⟨settings, s, hsettings, hsurvey, rfl⟩ := run_eq_ok_iff.mp h
  refine ⟨settings, s, hsettings, hsurvey, ?_⟩
  rw [perform, exit_dump_eq_checkFailed_iff, Survey.mutualPairs, Survey.graph,
    FolderGraph.mutualPairs_ofRecords_ne_nil_iff]
  exact and_iff_right rfl

/-- Two files that import each other from two folders. -/
theorem strict_dump_exact_pair :
    let toY : DiskEntry := .file true [0x2e, 0x2e, 0x2f, 0x62, 0x2f, 0x79, 0x2e, 0x74, 0x73]
    let toX : DiskEntry := .file true [0x2e, 0x2e, 0x2f, 0x61, 0x2f, 0x78, 0x2e, 0x74, 0x73]
    let d : Disk :=
      ⟨.folder true [("a", .folder true [("x.ts", toY)]), ("b", .folder true [("y.ts", toX)])], "/"⟩
    let options : ScanOptions :=
      { base := "/", extensions := ["ts"], patterns := ["(.+)"], noAliases := true,
        bestEffort := true }
    ∃ answer, Command.run d false ⟨.dump false true, options⟩ = .ok answer ∧
      answer.exit = .checkFailed := by
  intro toY toX d options
  have hroot : d.root.isFolder := rfl
  have hsettings :
      Settings.ofOptions d options = .ok ((Settings.ofBase "/").override options []) := by
    have hmissing : d.look true ("/" ++ SettingsFile.name) = .error .missing := by
      simp [Disk.look, Disk.maxPlace, SettingsFile.name]
      rfl
    exact Settings.ofOptions_slash hroot (by simp [Disk.isFile, hmissing]) rfl rfl
  obtain ⟨pattern, hpattern, hfinds⟩ : ∃ pattern, ImportPattern.ofText "(.+)" = .ok pattern ∧
      ["../b/y.ts", "../a/x.ts"].map pattern.groupTexts =
        ["../b/y.ts", "../a/x.ts"].map fun token => [some token] := by
    have h : (ImportPattern.ofText "(.+)").toOption.map
        (fun pattern => ["../b/y.ts", "../a/x.ts"].map pattern.groupTexts) =
          some (["../b/y.ts", "../a/x.ts"].map fun token => [some token]) := by decide +kernel
    exact exists_ok_of_toOption h
  let p : Plan := ⟨"/", ["ts"], [pattern], .ofNames Settings.skippedAlways, none, .bestEffort⟩
  have hplan : ((Settings.ofBase "/").override options []).plan d = .ok p := by
    have hpatterns : ((Settings.ofBase "/").override options []).planPatterns = ["(.+)"] :=
      firstOccurrences_of_nodup (by decide)
    have hextensions : ((Settings.ofBase "/").override options []).planExtensions = ["ts"] :=
      @firstOccurrences_of_nodup ["ts"] (by decide)
    rw [Settings.plan, hpatterns, hextensions]
    simp [Settings.readPatterns, hpattern, Except.mapError, bind, Except.bind, pure, Except.pure,
      Except.map]
    rfl
  have hsurvey := Settings.survey_eq_ok hplan (Plan.survey_eq d p) rfl
  have hcontents : ∀ e ∈ [("a/x.ts", "../b/y.ts"), ("b/y.ts", "../a/x.ts")],
      e ∈ p.contents d := by
    have hx : d.look true "/a/x.ts" = .ok ⟨["a", "x.ts"], toY⟩ :=
      Disk.look_of_reaches (by simp) (by decide) (by decide) (by decide) <|
        .idle (.inl rfl) <| .folder ⟨by decide, by decide, _, _, rfl, rfl, rfl⟩ <|
          .file ⟨by decide, by decide, _, _, rfl, rfl, rfl⟩
    have hy : d.look true "/b/y.ts" = .ok ⟨["b", "y.ts"], toX⟩ :=
      Disk.look_of_reaches (by simp) (by decide) (by decide) (by decide) <|
        .idle (.inl rfl) <| .folder ⟨by decide, by decide, _, _, rfl, rfl, rfl⟩ <|
          .file ⟨by decide, by decide, _, _, rfl, rfl, rfl⟩
    intro e he
    have hread : d.readLenient (Place.join "/" e.1) = .ok e.2 := by
      have hplace : Place.join "/" e.1 = "/" ++ e.1 := by
        revert e
        simp [Place.join, Place.endsWith_slash_iff]
      simp only [List.mem_cons, List.not_mem_nil, or_false] at he
      rw [hplace, Disk.readLenient, Disk.readBytes]
      rcases he with rfl | rfl
      · rw [show "/" ++ "a/x.ts" = "/a/x.ts" from rfl, hx]
        decide
      · rw [show "/" ++ "b/y.ts" = "/b/y.ts" from rfl, hy]
        decide
    have hnamed : walkPath (Path.segments e.1) = e.1 ∧ Plan.hasExtension ["ts"] e.1 := by
      clear hread
      revert e
      decide
    have hsight : .file (Path.segments e.1) ∈ d.sights p.skipDirs.contains "/" := by
      clear hread hnamed
      simp only [Disk.sights, p, Disk.look_slash hroot]
      revert e
      decide
    exact Plan.mem_contents_of_sight Bool.false_ne_true hsight hnamed.1 hnamed.2 hread
  have htoken : ∀ token ∈ ["../b/y.ts", "../a/x.ts"],
      token ∈ extractTokens p.matchers token ∧ Token.Relative token := by
    intro token ht
    have hfind : some token ∈ pattern.groupTexts token := by
      rw [List.map_inj_left.mp hfinds _ ht]
      exact .head _
    have htext : trimmed token = token ∧ token ≠ "" ∧ Token.isRelative (Token.pathText token) := by
      clear hfind
      revert token
      decide
    exact ⟨FileImports.mem_extractTokens_of_find (.head _) hfind htext.1 htext.2.1,
      Token.isRelative_pathText.mp htext.2.2⟩
  have hrun : Command.run d false ⟨.dump false true, options⟩ = .ok _ :=
    run_eq_ok_iff.mpr ⟨_, _, hsettings, hsurvey, rfl⟩
  obtain ⟨settings, s, hs, hsur, hiff⟩ := strict_dump_exact.2 _ _ _ _ _ hrun
  cases Except.ok.inj (hsettings.symm.trans hs)
  cases Except.ok.inj (hsurvey.symm.trans hsur)
  refine ⟨_, hrun, hiff.mpr ?_⟩
  have hx := hcontents _ (.head _)
  have hy := hcontents _ (.tail _ (.head _))
  obtain ⟨hfindY, hrelY⟩ := htoken "../b/y.ts" (.head _)
  obtain ⟨hfindX, hrelX⟩ := htoken "../a/x.ts" (.tail _ (.head _))
  obtain ⟨f, hf, hfile, hto⟩ := Plan.exists_importing _ hx hfindY hrelY (by decide)
    (List.mem_map_of_mem hy) (by decide)
  obtain ⟨g, hg, hback, hfrom⟩ := Plan.exists_importing _ hy hfindX hrelX (by decide)
    (List.mem_map_of_mem hx) (by decide)
  refine ⟨f, hf, g, hg, _, hto, _, hfrom, ?_⟩
  rw [hfile, hback]
  exact ⟨rfl, rfl, by decide⟩

end Command

end ImportSurvey
