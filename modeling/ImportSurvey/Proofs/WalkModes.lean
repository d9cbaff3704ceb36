import ImportSurvey.Proofs.DiskLook
import ImportSurvey.Proofs.SurveyContents

namespace ImportSurvey

namespace Plan

variable {d : Disk} {p : Plan} {o : Obstacle}

/-- A fault that ends a survey and the note about what was passed over instead concern one thing on
the disk: a folder that the walk cannot enter, something in a folder that it cannot name, or a file
with a wanted extension that cannot be read under its path. -/
inductive Concerns (d : Disk) (p : Plan) : ScanFault → Issue → Prop
  | onWalk {names : List String} {cause : DiskFault} :
      .blocked names cause ∈ d.sights p.skipDirs.contains p.base →
      Concerns d p (.disk cause (Place.joinAll p.base names))
        ⟨walkPath names,
          "IO error for operation on " ++ Place.joinAll p.base names ++ ": " ++ cause.text⟩
  | lost {names : List String} {cause : DiskFault} :
      .lost names cause ∈ d.sights p.skipDirs.contains p.base →
      Concerns d p (.walk cause) ⟨"<unknown>", cause.text⟩
  | onReading {names : List String} {cause : DiskFault} :
      .file names ∈ d.sights p.skipDirs.contains p.base →
      hasExtension p.extensions (walkPath names) →
      d.readLenient (Place.join p.base (walkPath names)) = .error cause →
      Concerns d p (.disk cause (Place.join p.base (walkPath names)))
        ⟨walkPath names,
          "I/O error: " ++ cause.text ++ " (path: " ++ Place.join p.base (walkPath names) ++ ")"⟩

theorem concerns_of_mem_walk (h : o ∈ (Walk.ofDisk d p.skipDirs p.base).obstacles) :
    Concerns d p o.fault o.issue := by
  obtain ⟨sight, hs, ho⟩ := List.mem_filterMap.mp h
  cases sight with
  | file names => simp [walkObstacle?] at ho
  | blocked names cause =>
    cases Option.some.inj ho
    exact .onWalk hs
  | lost names cause =>
    cases Option.some.inj ho
    exact .lost hs

theorem concerns_of_mem_readings
    (h : o ∈ (p.readings d (Walk.ofDisk d p.skipDirs p.base)).filterMap (·.obstacle? p.base)) :
    Concerns d p o.fault o.issue := by
  obtain ⟨reading, hr, ho⟩ := List.mem_filterMap.mp h
  obtain ⟨file, hf, rfl⟩ := List.mem_map.mp hr
  obtain ⟨hwalked, hext⟩ := List.mem_filter.mp hf
  rw [Walk.files_ofDisk] at hwalked
  obtain ⟨names, hn, rfl⟩ := List.mem_map.mp hwalked
  cases hread : d.readLenient (Place.join p.base (walkPath names)) with
  | ok text => simp [read, Reading.obstacle?, hread] at ho
  | error cause =>
    simp only [read, Reading.obstacle?, hread, Option.some.injEq] at ho
    subst ho
    exact .onReading (Sight.mem_fileNames?_iff.mp hn) hext hread

theorem concerns_of_mem_obstacles (h : o ∈ p.obstacles d) : Concerns d p o.fault o.issue := by
  unfold obstacles at h
  split at h
  next => simp at h
  next =>
    rcases List.mem_append.mp h with h | h
    · exact concerns_of_mem_walk h
    · exact concerns_of_mem_readings h

/-- Passing over what cannot be read always gives a survey, and ending at it gives the same survey
as long as there is nothing to note. Otherwise the survey ends with a fault that concerns what the
first note is about. -/
theorem survey_modes_agree (d : Disk) (p : Plan) :
    (∃ s, { p with mode := .bestEffort }.survey d = .ok s) ∧
      (∀ s, { p with mode := .failFast }.survey d = .ok s ↔
        { p with mode := .bestEffort }.survey d = .ok s ∧ s.issues = []) ∧
      ∀ fault, { p with mode := .failFast }.survey d = .error fault →
        ∃ s issue, { p with mode := .bestEffort }.survey d = .ok s ∧
          s.issues.head? = some issue ∧ Concerns d p fault issue := by
  have hbest : { p with mode := .bestEffort }.survey d =
      .ok (p.ofContents (p.contents d) ((p.obstacles d).map (·.issue))) := survey_eq d _
  have hfast : { p with mode := .failFast }.survey d =
      (WalkMode.failFast.check (p.obstacles d)).map fun _ =>
        p.ofContents (p.contents d) ((p.obstacles d).map (·.issue)) := survey_eq d _
  rw [hbest, hfast]
  cases hall : p.obstacles d with
  | nil =>
    refine ⟨⟨_, rfl⟩, fun s => ⟨fun h => ⟨h, ?_⟩, fun h => h.1⟩, fun fault h => ?_⟩
    · cases Except.ok.inj h
      rfl
    · cases h
  | cons first rest =>
    refine ⟨⟨_, rfl⟩, fun s => iff_of_false ?_ ?_, fun fault h => ?_⟩
    · intro h
      cases h
    · rintro ⟨h, hnone⟩
      cases Except.ok.inj h
      cases hnone
    · cases Except.error.inj h
      exact ⟨_, first.issue, rfl, rfl, concerns_of_mem_obstacles (by simp [hall])⟩

/-- A closed folder ends the one survey and is the first note of the other, before a closed file. -/
theorem survey_modes_agree_closed :
    let inner : DiskEntry :=
      .folder true [("a", .folder false []), ("b.ts", .file false []), ("c.ts", .file true [])]
    let d : Disk := ⟨.folder true [("base", inner)], "/"⟩
    let p : Plan := ⟨"/base", ["ts"], [⟨"()", .ofExpr (.group 1 .empty)⟩], .ofNames [], none,
      .failFast⟩
    let issue : Issue :=
      ⟨"a", "IO error for operation on /base/a: Permission denied (os error 13)"⟩
    p.survey d = .error (.disk .denied "/base/a") ∧
      ∃ s, { p with mode := .bestEffort }.survey d = .ok s ∧ s.issues.head? = some issue ∧
        Concerns d p (.disk .denied "/base/a") issue := by
  intro inner d p issue
  have hall : p.obstacles d =
      [.onWalk "a" "/base/a" .denied, .onReading "b.ts" "/base/b.ts" .denied] := by
    decide +kernel
  have hfast : p.survey d = .error (.disk .denied "/base/a") := by
    rw [survey_eq, hall]
    rfl
  obtain ⟨s, first, hs, hfirst, hconcerns⟩ := (survey_modes_agree d p).2.2 _ hfast
  have hissue : s.issues.head? = some issue := by
    have hbest : { p with mode := .bestEffort }.survey d =
        .ok (p.ofContents (p.contents d) ((p.obstacles d).map (·.issue))) := survey_eq d _
    cases Except.ok.inj (hs.symm.trans hbest)
    rw [hall]
    decide
  cases Option.some.inj (hfirst.symm.trans hissue)
  exact ⟨hfast, s, hs, hissue, hconcerns⟩

/-- If the listing of the base folder breaks off, that is the first that a survey meets. There is no
place and no path to it. -/
theorem survey_of_breakOff {names : List String} {entries : List (String × DiskEntry)}
    {cause : DiskFault} (hscoped : ¬p.isUnscoped)
    (hbase : d.look true p.base = .ok ⟨names, .folder true entries⟩)
    (hcause : DiskEntry.breakOff? entries = some cause) :
    { p with mode := .failFast }.survey d = .error (.walk cause) ∧
      ∃ s, { p with mode := .bestEffort }.survey d = .ok s ∧
        s.issues.head? = some ⟨"<unknown>", cause.text⟩ := by
  obtain ⟨rest, hall⟩ : ∃ rest, p.obstacles d = .lost cause :: rest := by
    rw [obstacles, if_neg hscoped, Walk.ofDisk, Disk.sights_eq_of_look hbase rfl,
      DiskEntry.sights, if_pos rfl, hcause]
    exact ⟨_, rfl⟩
  constructor
  · rw [survey_eq]
    change (WalkMode.failFast.check (p.obstacles d)).map _ = _
    rw [hall]
    rfl
  · refine ⟨_, survey_of_bestEffort rfl d, ?_⟩
    change ((p.obstacles d).map (·.issue)).head? = _
    rw [hall]
    rfl

example :
    let d : Disk := ⟨.folder true [("a", .folder false []), ("b.ts", .lost .denied)], "/"⟩
    d.sights (NameSet.ofNames []).contains "/" = [.lost [] .denied, .blocked ["a"] .denied] := by
  decide +kernel

end Plan

end ImportSurvey
