import ImportSurvey.Proofs.SurveyCoherence

namespace ImportSurvey.Plan

variable {d d' : Disk} {p : Plan} {issues issues' : List Issue} {file text : String}

/-- The paths of a walk that have a wanted extension. -/
def scope (d : Disk) (p : Plan) : List String :=
  (Walk.ofDisk d p.skipDirs p.base).files.filter (hasExtension p.extensions)

theorem readings_eq_map_scope (d : Disk) (p : Plan) :
    p.readings d (Walk.ofDisk d p.skipDirs p.base) = (p.scope d).map (p.read d) := rfl

theorem mem_contents_iff_of_path (hpath : file ∈ (p.contents d).map Prod.fst) :
    (file, text) ∈ p.contents d ↔ d.readLenient (Place.join p.base file) = .ok text := by
  obtain ⟨⟨_, other⟩, hmem, rfl⟩ := List.mem_map.mp hpath
  obtain ⟨names, hn, hnames, hread⟩ := mem_contents_iff.mp hmem
  rw [mem_contents_iff]
  exact ⟨fun ⟨_, _, _, h⟩ => h, fun h => ⟨names, hn, hnames, h⟩⟩

/-- A file of the survey has the record of what is read under its path. -/
theorem get?_records_iff {record : FileImports} :
    (p.ofContents (p.contents d) issues).records.get? file = some record ↔
      ∃ text, (file, text) ∈ p.contents d ∧
        record = .ofContent (p.resolver ((p.contents d).map Prod.fst)) p.matchers file text := by
  rw [Catalog.get?_eq_some_iff]
  constructor
  · intro h
    exact mem_records_ofContents h
  · rintro ⟨text, hmem, rfl⟩
    exact mem_records_of_mem_contents issues hmem

/-- Two surveys of the same paths have the same record for a file with the same content. -/
theorem get?_records_congr (hpaths : (p.contents d).map Prod.fst = (p.contents d').map Prod.fst)
    (hread : d.readLenient (Place.join p.base file) = d'.readLenient (Place.join p.base file)) :
    (p.ofContents (p.contents d) issues).records.get? file =
      (p.ofContents (p.contents d') issues').records.get? file := by
  have hmem : ∀ text, (file, text) ∈ p.contents d ↔ (file, text) ∈ p.contents d' := by
    intro text
    by_cases hfile : file ∈ (p.contents d).map Prod.fst
    · rw [mem_contents_iff_of_path hfile, mem_contents_iff_of_path (hpaths ▸ hfile), hread]
    · have hfile' : file ∉ (p.contents d').map Prod.fst := hpaths ▸ hfile
      exact iff_of_false (fun h => hfile (List.mem_map_of_mem h))
        (fun h => hfile' (List.mem_map_of_mem h))
  ext record
  simp only [get?_records_iff, hmem, hpaths]

theorem files_of_readable (hscoped : ¬p.isUnscoped)
    (hread : ∀ file ∈ p.scope d, ∃ text, d.readLenient (Place.join p.base file) = .ok text) :
    (p.contents d).map Prod.fst = p.scope d := by
  rw [← contents_eq_readings hscoped, readings_eq_map_scope, List.filterMap_map, List.map_filterMap]
  refine (List.filterMap_congr fun file hf => ?_).trans List.filterMap_some
  obtain ⟨text, htext⟩ := hread file hf
  simp [read, Reading.text?, htext]

/-- Only the walk can be in the way of a survey if every file that counts can be read. -/
theorem survey_of_readable
    (hwalk : p.mode.check (Walk.ofDisk d p.skipDirs p.base).obstacles = .ok ())
    (hread : ∀ file ∈ p.scope d, ∃ text, d.readLenient (Place.join p.base file) = .ok text) :
    ∃ issues, p.survey d = .ok (p.ofContents (p.contents d) issues) := by
  have hunread : (p.readings d (Walk.ofDisk d p.skipDirs p.base)).filterMap
      (·.obstacle? p.base) = [] := by
    rw [readings_eq_map_scope, List.filterMap_map, List.filterMap_eq_nil_iff]
    intro file hf
    obtain ⟨text, htext⟩ := hread file hf
    simp [read, Reading.obstacle?, htext]
  have hfree : p.mode.check (p.obstacles d) = .ok () := by
    unfold obstacles
    split
    next => cases p.mode <;> rfl
    next => simp only [hunread, List.append_nil, hwalk]
  rw [survey_eq, hfree]
  exact ⟨_, rfl⟩

/-- Where the walks show the same files that count, and all of them can be read, two surveys by one
plan have the same files, the same tree, and the same record for each file with the same content.
What else there is on the disks makes no difference. -/
theorem survey_depends_on_content
    (hwalk : p.mode.check (Walk.ofDisk d p.skipDirs p.base).obstacles = .ok ())
    (hwalk' : p.mode.check (Walk.ofDisk d' p.skipDirs p.base).obstacles = .ok ())
    (hscope : p.scope d = p.scope d')
    (hread : ∀ file ∈ p.scope d, ∃ text, d.readLenient (Place.join p.base file) = .ok text)
    (hread' : ∀ file ∈ p.scope d, ∃ text, d'.readLenient (Place.join p.base file) = .ok text) :
    ∃ s s', p.survey d = .ok s ∧ p.survey d' = .ok s' ∧ s.files = s'.files ∧ s.tree = s'.tree ∧
      ∀ file, d.readLenient (Place.join p.base file) = d'.readLenient (Place.join p.base file) →
        s.records.get? file = s'.records.get? file := by
  rw [hscope] at hread'
  obtain ⟨issues, hs⟩ := survey_of_readable hwalk hread
  obtain ⟨issues', hs'⟩ := survey_of_readable hwalk' hread'
  have hpaths : (p.contents d).map Prod.fst = (p.contents d').map Prod.fst := by
    by_cases hu : p.isUnscoped
    · simp [contents, counted, hu]
    · rw [files_of_readable hu hread, files_of_readable hu hread', hscope]
  refine ⟨_, _, hs, hs', hpaths, congrArg FolderTree.ofFiles hpaths, fun file hfile => ?_⟩
  exact get?_records_congr hpaths hfile

/-- One file keeps its content; another one changes, and so does what does not count. -/
theorem survey_depends_on_content_changed :
    let kept : DiskEntry := .file true [0x2e, 0x2f, 0x62]
    let d : Disk := ⟨.folder true [("a.ts", kept), ("b.ts", .file true []),
      ("c.md", .file false [])], "/"⟩
    let d' : Disk := ⟨.folder true [("a.ts", kept), ("b.ts", .file true [0x2e]),
      ("d", .folder true []), ("e", .link "a.ts")], "/"⟩
    let p : Plan := ⟨"/", ["ts"],
      [⟨"((?s:.)+)", .ofExpr (.group 1 (.times 1 none true (.oneOf .all)))⟩], .ofNames [], none,
      .failFast⟩
    p.scope d = ["a.ts", "b.ts"] ∧ p.scope d' = ["a.ts", "b.ts"] ∧
      d.readLenient (Place.join "/" "a.ts") = .ok "./b" ∧
      d'.readLenient (Place.join "/" "a.ts") = .ok "./b" ∧
      ∃ s s', p.survey d = .ok s ∧ p.survey d' = .ok s' ∧ s.files = s'.files ∧ s.tree = s'.tree ∧
        s.records.get? "a.ts" = s'.records.get? "a.ts" := by
  intro kept d d' p
  have hscope : p.scope d = ["a.ts", "b.ts"] := by decide +kernel
  have hscope' : p.scope d' = ["a.ts", "b.ts"] := by decide +kernel
  have hkept : d.readLenient (Place.join "/" "a.ts") = .ok "./b" := by decide +kernel
  have hkept' : d'.readLenient (Place.join "/" "a.ts") = .ok "./b" := by decide +kernel
  have hread : ∀ file ∈ p.scope d,
      ∃ text, d.readLenient (Place.join p.base file) = .ok text := by
    intro file hf
    rw [hscope] at hf
    have hb : d.readLenient (Place.join "/" "b.ts") = .ok "" := by decide +kernel
    simp only [List.mem_cons, List.not_mem_nil, or_false] at hf
    rcases hf with rfl | rfl
    · exact ⟨_, hkept⟩
    · exact ⟨_, hb⟩
  have hread' : ∀ file ∈ p.scope d,
      ∃ text, d'.readLenient (Place.join p.base file) = .ok text := by
    intro file hf
    rw [hscope] at hf
    have hb : d'.readLenient (Place.join "/" "b.ts") = .ok "." := by decide +kernel
    simp only [List.mem_cons, List.not_mem_nil, or_false] at hf
    rcases hf with rfl | rfl
    · exact ⟨_, hkept'⟩
    · exact ⟨_, hb⟩
  have hwalk : (Walk.ofDisk d p.skipDirs p.base).obstacles = [] := by decide +kernel
  have hwalk' : (Walk.ofDisk d' p.skipDirs p.base).obstacles = [] := by decide +kernel
  obtain ⟨s, s', hs, hs', hfiles, htree, hrecords⟩ := survey_depends_on_content
    (by rw [hwalk]; rfl) (by rw [hwalk']; rfl) (hscope.trans hscope'.symm) hread hread'
  exact ⟨hscope, hscope', hkept, hkept', s, s', hs, hs', hfiles, htree,
    hrecords "a.ts" (hkept.trans hkept'.symm)⟩

end ImportSurvey.Plan
