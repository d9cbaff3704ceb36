import ImportSurvey.Proofs.CountedFiles
import ImportSurvey.Proofs.SurveyCoherence

namespace ImportSurvey

/-- Links followed, the place of a file stands below the base folder. -/
def Disk.ReadsBelow (d : Disk) (base file : String) : Prop :=
  ∃ b found more, d.look true base = .ok b ∧ d.look true (Place.join base file) = .ok found ∧
    more ≠ [] ∧ found.names = b.names ++ more

/-- Nothing in a survey lies outside the base folder. -/
structure Survey.Confined (d : Disk) (s : Survey) : Prop where
  files : ∀ file ∈ s.files, Path.Normal file
  folders : ∀ folder ∈ s.tree.names, Path.Normal folder
  targets : ∀ record ∈ s.records.entries, ∀ i ∈ record.2.imports, i.isInternal →
    Path.Normal i.target
  reads : ∀ file ∈ s.files, d.ReadsBelow s.base file

namespace Plan

variable {d : Disk} {p : Plan} {s : Survey} {names : List String}

theorem look_of_mem_counted (h : names ∈ p.counted d) :
    ∃ found, d.look true (Place.join p.base (walkPath names)) = .ok found := by
  obtain ⟨_, _, _, text, hread⟩ := mem_counted_iff.mp h
  unfold Disk.readLenient Disk.readBytes at hread
  cases hlook : d.look true (Place.join p.base (walkPath names)) with
  | ok found => exact ⟨found, rfl⟩
  | error fault => simp [hlook, Except.map] at hread

theorem not_absolute_of_free (legal : d.root.Legal) (h : names ∈ p.counted d)
    (free : ∀ name ∈ names, '\\' ∉ name.toList) : ¬(walkPath names).startsWith "/" := by
  have hsegs := segments_of_mem_counted legal h free
  intro habs
  obtain ⟨rest, hrest⟩ := String.startsWith_string_iff.mp habs
  have hpath : walkPath names = "" ++ "/" ++ String.ofList rest := by
    apply String.toList_inj.mp
    rw [← hrest]
    simp
  rw [hpath, Path.segments_append_slash] at hsegs
  have hmem : "" ∈ names := by
    rw [← hsegs]
    exact List.mem_append_left _ (by decide)
  exact (legalName_of_mem_counted legal h "" hmem).1.1 rfl

/-- A file without backslashes on its way is read where the walk met it. -/
theorem reads_where_met (legal : d.root.Legal) (h : names ∈ p.counted d)
    (free : ∀ name ∈ names, '\\' ∉ name.toList) :
    ∃ b found, d.look true p.base = .ok b ∧
      d.look true (Place.join p.base (walkPath names)) = .ok found ∧
      found.names = b.names ++ names := by
  obtain ⟨b, hbase, hleads⟩ := leads_of_mem_counted h
  obtain ⟨found, hfound⟩ := look_of_mem_counted h
  have hne := ne_nil_of_mem_counted h
  have hblegal := Disk.legal_of_look legal hbase
  have hfolder := hleads.isFolder hne
  obtain ⟨fewer, inner, hinner, hway⟩ :=
    Disk.look_join hbase hfolder (not_absolute_of_free legal h free) hfound
  have hparts : Place.parts (walkPath names) = names := segments_of_mem_counted legal h free
  rw [hparts] at hway
  refine ⟨b, found, hbase, hfound, ?_⟩
  subst hinner
  cases inner with
  | nil =>
    cases hleads with
    | folder hmem _ _ => simp at hmem
  | cons level outer => exact (Disk.names_of_leads hleads hblegal rfl hway).1

theorem normal_of_unresolved (h : p.survey d = .ok s) :
    ∀ record ∈ s.records.entries, ∀ i ∈ record.2.imports, i.kind = .unresolved →
      Path.Normal i.target := by
  obtain ⟨issues, rfl⟩ := survey_eq_ofContents h
  intro record hr i hi hkind
  obtain ⟨text, _, heq⟩ := mem_records_ofContents hr
  rw [heq] at hi
  obtain ⟨found, hfound, htarget, hkind'⟩ := FileImports.mem_imports_ofContent hi
  rw [htarget]
  exact Resolver.normal_of_unresolved hfound (hkind'.symm.trans hkind)

/-- It is enough to look at the files: no other path can be the first to lie outside. -/
theorem confined_of_files (h : p.survey d = .ok s) (hfiles : ∀ file ∈ s.files, Path.Normal file)
    (hreads : ∀ file ∈ s.files, d.ReadsBelow p.base file) : s.Confined d := by
  have hunresolved := normal_of_unresolved h
  obtain ⟨issues, rfl⟩ := survey_eq_ofContents h
  have hcoherent := coherent_ofContents (p := p) issues (root_not_mem_contents d p)
  refine ⟨hfiles, ?_, ?_, hreads⟩
  · intro folder hf
    rw [hcoherent.tree_eq, FolderTree.mem_names_ofFiles] at hf
    obtain ⟨file, hfile, rfl⟩ := hf
    exact Path.normal_parent (hfiles file hfile)
  · intro record hr i hi hint
    cases hkind : i.kind with
    | resolved => exact hfiles _ ((hcoherent.kind_iff record hr i hi hint).mp hkind)
    | unresolved => exact hunresolved record hr i hi hkind
    | external => simp [Import.isInternal, hkind] at hint

/-- What has to hold of a file for a survey that counts it to be confined. -/
structure KeepsInside (d : Disk) (p : Plan) (names : List String) : Prop where
  pieces : ∀ name ∈ names, ∀ piece ∈ Path.segments (Path.withSlashes name), Path.Ordinary piece
  reads : d.ReadsBelow p.base (walkPath names)

theorem keepsInside_of_free (legal : d.root.Legal) (h : names ∈ p.counted d)
    (free : ∀ name ∈ names, '\\' ∉ name.toList) : p.KeepsInside d names := by
  have hlegal := legalName_of_mem_counted legal h
  constructor
  · intro name hn piece hpiece
    rw [Path.withSlashes_of_not_mem (free name hn),
      Path.segments_of_not_mem (hlegal name hn).2] at hpiece
    cases List.mem_singleton.mp hpiece
    exact (hlegal name hn).1
  · obtain ⟨b, found, hbase, hfound, hnames⟩ := reads_where_met legal h free
    exact ⟨b, found, names, hbase, hfound, ne_nil_of_mem_counted h, hnames⟩

theorem confined_iff_keepsInside (h : p.survey d = .ok s) :
    s.Confined d ↔ ∀ names ∈ p.counted d, p.KeepsInside d names := by
  have hfiles := survey_files h
  have hnormal : ∀ names ∈ p.counted d, (Path.Normal (walkPath names) ↔
      ∀ name ∈ names, ∀ piece ∈ Path.segments (Path.withSlashes name), Path.Ordinary piece) :=
    fun names hn => normal_walkPath_iff (ne_nil_of_mem_counted hn) (walkPath_ne_root hn)
  constructor
  · intro confined names hn
    have hpath : walkPath names ∈ s.files := by
      rw [hfiles]
      exact List.mem_map_of_mem hn
    have hbase : s.base = p.base := by
      obtain ⟨issues, rfl⟩ := survey_eq_ofContents h
      rfl
    exact ⟨(hnormal names hn).mp (confined.files _ hpath), hbase ▸ confined.reads _ hpath⟩
  · intro hinside
    apply confined_of_files h
    · intro file hf
      rw [hfiles] at hf
      obtain ⟨names, hn, rfl⟩ := List.mem_map.mp hf
      exact (hnormal names hn).mpr (hinside names hn).pieces
    · intro file hf
      rw [hfiles] at hf
      obtain ⟨names, hn, rfl⟩ := List.mem_map.mp hf
      exact (hinside names hn).reads

/-- A survey of a legal disk is confined exactly if each counted file with backslashes on its way
keeps inside, read with slashes in their place. -/
theorem survey_confined_iff (legal : d.root.Legal) (h : p.survey d = .ok s) :
    s.Confined d ↔ ∀ names ∈ p.counted d, (∃ name ∈ names, '\\' ∈ name.toList) →
      p.KeepsInside d names := by
  rw [confined_iff_keepsInside h]
  constructor
  · intro hinside names hn _
    exact hinside names hn
  · intro hmarked names hn
    by_cases hmark : ∃ name ∈ names, '\\' ∈ name.toList
    · exact hmarked names hn hmark
    · exact keepsInside_of_free legal hn fun name hname hmem => hmark ⟨name, hname, hmem⟩

/-- A name that starts with two dots and a backslash leads out of the base folder. -/
theorem survey_not_confined_of_climbing_name :
    let inner : DiskEntry := .folder true [("..\\x.ts", .file true [])]
    let d : Disk := ⟨.folder true [("base", inner), ("x.ts", .file true [])], "/"⟩
    let p : Plan := ⟨"/base", ["ts"], [⟨"()", .ofExpr (.group 1 .empty)⟩], .ofNames [], none,
      .bestEffort⟩
    d.root.Legal ∧ ∃ s, p.survey d = .ok s ∧ ¬s.Confined d := by
  intro inner d p
  have legal : d.root.Legal := by
    simp only [d, inner, DiskEntry.Legal, DiskEntry.LegalIn]
    decide
  have hbase : ∀ followLast, d.look followLast "/base" = .ok ⟨["base"], inner⟩ := fun _ =>
    Disk.look_of_reaches (by simp) (by decide) (by decide) (by decide) <|
      .idle (.inl rfl) (.folder ⟨by decide, by decide, _, _, rfl, rfl, rfl⟩ .here)
  have hread : d.look true (Place.join "/base" "../x.ts") = .ok ⟨["x.ts"], .file true []⟩ := by
    rw [Place.join_relative _ (by simp), Place.lead, if_neg (by simp [Place.endsWith_slash_iff])]
    have hparts : Place.parts ("/base" ++ "/" ++ "../x.ts") = ["", "base", "..", "x.ts"] := by
      decide
    exact Disk.look_of_reaches (by simp) (by decide) (by decide) hparts <|
      .idle (.inl rfl) <| .folder ⟨by decide, by decide, _, _, rfl, rfl, rfl⟩ <|
        .climb rfl <| .file ⟨by decide, by decide, _, _, rfl, rfl, rfl⟩
  have hpath : walkPath ["..\\x.ts"] = "../x.ts" := by decide
  have hcounted : ["..\\x.ts"] ∈ p.counted d := by
    refine mem_counted_iff.mpr ⟨by decide, ?_, by decide, ?_⟩
    · simp only [p, Disk.sights, hbase]
      decide
    · rw [hpath, Disk.readLenient, Disk.readBytes, hread]
      exact ⟨_, rfl⟩
  obtain ⟨s, hs⟩ : ∃ s, p.survey d = .ok s := ⟨_, rfl⟩
  refine ⟨legal, s, hs, ?_⟩
  rw [survey_confined_iff legal hs]
  intro hall
  have hkeeps := hall _ hcounted ⟨_, List.mem_cons_self, by decide⟩
  have hclimb := hkeeps.pieces _ List.mem_cons_self ".." (by decide)
  exact absurd hclimb (by decide)

end Plan

end ImportSurvey
