import ImportSurvey.Proofs.SurveyConfinement
import ImportSurvey.Proofs.SurveyExclusion
import ImportSurvey.Proofs.WalkthroughImports

namespace ImportSurvey

/-- The resolved targets are those of the imports that are resolved. -/
def FileImports.TellsResolved (r : FileImports) : Prop :=
  ∀ target, target ∈ r.resolved ↔ ∃ i ∈ r.imports, i.kind = .resolved ∧ i.target = target

namespace Report.Walkthrough

variable {s : Survey} {folder target : String}

/-- The page of a folder lists an import: it prints the name of a file that has the import, and
below that a line for each import of the file that leads out of the folder, this one among them. -/
def Lists (s : Survey) (folder : String) (i : Import) : Prop :=
  ∃ number name before after, folderOf? s number = some folder ∧
    name ∈ s.tree.filesIn folder ∧ i ∈ leaving s folder name ∧
    page s number = .page number (pageCount s)
      (unlines ([headText s folder, ""] ++ before ++ fileText s folder name ++ after))

/-- Pages and graph agree. -/
structure TellsEdges (s : Survey) : Prop where
  /-- The page of a folder prints the lines for its files and no others. -/
  page_lines : ∀ number folder, folderOf? s number = some folder →
    page s number = .page number (pageCount s) (unlines ([headText s folder, ""] ++
      if filesText s folder = [] then ["No cross-directory imports."] else filesText s folder))
  /-- The edges that lead to no folder below are those for which a page lists a resolved import. -/
  edge_iff : ∀ folder target, s.graph.hasEdge folder target ∧ ¬Path.within target folder ↔
    ∃ i, Lists s folder i ∧ i.kind = .resolved ∧ Path.parent i.target = target

theorem mem_leaving_iff {name : String} {i : Import} : i ∈ leaving s folder name ↔
    ∃ record, s.records.get? (Path.inFolder folder name) = some record ∧ i ∈ record.imports ∧
      i.isInternal ∧ ¬Path.within (Path.parent i.target) folder := by
  unfold leaving
  cases s.records.get? (Path.inFolder folder name) with
  | none => simp
  | some record => simp [leavesFolder]

theorem Listed.lists_of_edge (listed : Listed s) {e : String × FileImports} {i : Import}
    (he : e ∈ s.records.entries) (hi : i ∈ e.2.imports) (hkind : i.kind = .resolved)
    (hout : ¬Path.within (Path.parent i.target) (Path.parent e.1)) :
    Lists s (Path.parent e.1) i := by
  have hfile : e.1 ∈ s.records.keys := List.mem_map_of_mem he
  have hname : Path.leaf e.1 ∈ s.tree.filesIn (Path.parent e.1) :=
    List.count_pos_iff.mp (by rw [listed.once e.1 hfile]; omega)
  have hget : s.records.get? (Path.inFolder (Path.parent e.1) (Path.leaf e.1)) = some e.2 := by
    rw [Path.inFolder_parent_leaf (listed.normal e.1 hfile)]
    exact Catalog.get?_eq_some_iff.mpr he
  have hleaves : i ∈ leaving s (Path.parent e.1) (Path.leaf e.1) :=
    mem_leaving_iff.mpr ⟨e.2, hget, hi, by simp [Import.isInternal, hkind], hout⟩
  obtain ⟨number, hnumber⟩ := exists_page (FolderTree.mem_names_of_mem_filesIn hname)
  obtain ⟨before, after, hpage⟩ := page_file hnumber hname (List.ne_nil_of_mem hleaves)
  exact ⟨number, _, before, after, hnumber, hname, hleaves, hpage⟩

theorem Listed.exists_of_lists (listed : Listed s) {i : Import} (h : Lists s folder i) :
    ∃ e ∈ s.records.entries, Path.parent e.1 = folder ∧ i ∈ e.2.imports ∧
      ¬Path.within (Path.parent i.target) folder := by
  obtain ⟨_, name, _, _, _, hname, hleaves, _⟩ := h
  obtain ⟨record, hget, hi, _, hout⟩ := mem_leaving_iff.mp hleaves
  exact ⟨_, Catalog.get?_eq_some_iff.mp hget, (listed.parent_leaf hname).1, hi, hout⟩

/-- Where the pages find every record, they list a resolved import for each edge that leads out of
its folder, and for no other. -/
theorem Listed.tellsEdges (listed : Listed s)
    (tells : ∀ e ∈ s.records.entries, e.2.TellsResolved) : TellsEdges s := by
  refine ⟨fun _ _ => page_text, fun folder target => ?_⟩
  constructor
  · rintro ⟨hedge, hout⟩
    obtain ⟨e, he, _, rfl, t, ht, rfl⟩ := FolderGraph.hasEdge_ofRecords.mp hedge
    obtain ⟨i, hi, hkind, rfl⟩ := (tells e he t).mp ht
    exact ⟨i, listed.lists_of_edge he hi hkind hout, hkind, rfl⟩
  · rintro ⟨i, hlists, hkind, rfl⟩
    obtain ⟨e, he, rfl, hi, hout⟩ := listed.exists_of_lists hlists
    have hne : Path.parent e.1 ≠ Path.parent i.target := by
      intro heq
      exact hout (by simp [heq, Path.within])
    have hresolved := (tells e he i.target).mpr ⟨i, hi, hkind, rfl⟩
    exact ⟨FolderGraph.hasEdge_ofRecords.mpr ⟨e, he, hne, rfl, i.target, hresolved, rfl⟩, hout⟩

/-- Excluding folders takes a folder from the tree only together with the records in it. -/
theorem Listed.without (listed : Listed s) (excluded : List String) :
    Listed (s.without excluded) := by
  have hkept : ∀ file ∈ (s.without excluded).records.keys,
      file ∈ s.records.keys ∧ Survey.outside excluded (Path.parent file) := fun file hf => by
    rw [Survey.records_without, Catalog.keys_filterKeys, List.mem_filter] at hf
    exact ⟨hf.1, (Survey.outside_iff_parent.mp hf.2).2⟩
  refine ⟨listed.plain.without _, fun file hf => listed.normal file (hkept file hf).1, ?_⟩
  intro file hf
  obtain ⟨hfile, hout⟩ := hkept file hf
  have hfiles : (s.without excluded).tree.filesIn (Path.parent file) =
      s.tree.filesIn (Path.parent file) :=
    (FolderTree.filesIn_without ..).trans (if_pos hout)
  rw [hfiles, listed.once file hfile]

end Report.Walkthrough

namespace Plan

variable {d : Disk} {p : Plan} {s : Survey}

/-- The pages of a survey find every record if no file that was met has a backslash on its way. -/
theorem survey_listed (legal : d.root.Legal)
    (free : ∀ names, .file names ∈ d.sights p.skipDirs.contains p.base →
      ∀ name ∈ names, '\\' ∉ name.toList) (h : p.survey d = .ok s) :
    Report.Walkthrough.Listed s := by
  have hfree : ∀ names ∈ p.counted d, ∀ name ∈ names, '\\' ∉ name.toList := fun names hn =>
    free names (mem_counted_iff.mp hn).2.1
  have hnormal : ∀ file ∈ s.files, Path.Normal file := by
    have confined := (confined_iff_keepsInside h).mpr fun names hn =>
      keepsInside_of_free legal hn (hfree names hn)
    exact confined.files
  have hnodup : s.files.Nodup := by
    rw [survey_files h, List.nodup_map_iff_inj_on (counted_nodup legal p)]
    intro names hn others ho heq
    exact counted_eq_of_path legal hn ho (hfree names hn) (hfree others ho) heq
  obtain ⟨issues, rfl⟩ := survey_eq_ofContents h
  have hcoherent := coherent_ofContents (p := p) issues (root_not_mem_contents d p)
  refine ⟨FolderTree.plain_ofFiles _, fun file hf => ?_, fun file hf => ?_⟩
  · exact hnormal file ((hcoherent.records_iff file).mp hf)
  · have hfile := (hcoherent.records_iff file).mp hf
    rw [hcoherent.tree_eq, FolderTree.count_filesIn_ofFiles hnormal (hnormal file hfile)]
    exact List.count_eq_one_of_mem hnodup hfile

theorem survey_tellsResolved (h : p.survey d = .ok s) :
    ∀ e ∈ s.records.entries, e.2.TellsResolved := by
  obtain ⟨issues, rfl⟩ := survey_eq_ofContents h
  intro e he
  obtain ⟨text, _, heq⟩ := mem_records_ofContents he
  rw [heq]
  exact fun target => FileImports.mem_resolved_ofImports

/-- In a survey of files without backslashes on their way, and whatever folders are left out of it,
pages and graph agree. -/
theorem survey_tellsEdges (legal : d.root.Legal)
    (free : ∀ names, .file names ∈ d.sights p.skipDirs.contains p.base →
      ∀ name ∈ names, '\\' ∉ name.toList) (h : p.survey d = .ok s) (excluded : List String) :
    Report.Walkthrough.TellsEdges s ∧ Report.Walkthrough.TellsEdges (s.without excluded) := by
  have listed := survey_listed legal free h
  have tells := survey_tellsResolved h
  refine ⟨listed.tellsEdges tells, (listed.without excluded).tellsEdges fun e he => ?_⟩
  exact tells e (List.mem_filter.mp he).1

/-- A file of one folder imports a file of another, whether or not the other folder is left out. -/
theorem survey_tellsEdges_pair :
    let toY : DiskEntry := .file true [0x2e, 0x2e, 0x2f, 0x62, 0x2f, 0x79, 0x2e, 0x74, 0x73]
    let d : Disk := ⟨.folder true [("a", .folder true [("x.ts", toY)]),
      ("b", .folder true [("y.ts", .file true [])])], "/"⟩
    let p : Plan := ⟨"/", ["ts"],
      [⟨"((?s:.)+)", .ofExpr (.group 1 (.times 1 none true (.oneOf .all)))⟩], .ofNames [], none,
      .bestEffort⟩
    d.root.Legal ∧ (∀ names, .file names ∈ d.sights p.skipDirs.contains p.base →
        ∀ name ∈ names, '\\' ∉ name.toList) ∧
      ∃ s, p.survey d = .ok s ∧ ∀ t ∈ [s, s.without ["b"]], t.graph.hasEdge "a" "b" ∧
        (∃ i, Report.Walkthrough.Lists t "a" i ∧ i.kind = .resolved ∧
          Path.parent i.target = "b") ∧
        Report.Walkthrough.page t 2 = .page 2 (1 + t.tree.size)
          ("# a/ (1 file, parent module: a)\n\n" ++ "x.ts\n" ++
            "  ../b/y.ts -> b/y.ts  [leaves a]\n") := by
  intro toY d p
  have legal : d.root.Legal := by
    simp only [d, toY, DiskEntry.Legal, DiskEntry.LegalIn]
    decide
  have hsights : d.sights p.skipDirs.contains p.base = [.file ["a", "x.ts"], .file ["b", "y.ts"]] :=
    by decide +kernel
  have free : ∀ names, .file names ∈ d.sights p.skipDirs.contains p.base →
      ∀ name ∈ names, '\\' ∉ name.toList := by
    intro names hn
    rw [hsights] at hn
    simp only [List.mem_cons, Sight.file.injEq, List.not_mem_nil, or_false] at hn
    rcases hn with rfl | rfl <;> decide
  have hcontents : p.contents d = [("a/x.ts", "../b/y.ts"), ("b/y.ts", "")] := by decide +kernel
  have hobstacles : p.obstacles d = [] := by decide +kernel
  have hx : FileImports.ofContent (p.resolver ["a/x.ts", "b/y.ts"]) p.matchers "a/x.ts"
      "../b/y.ts" = .ofImports [⟨"../b/y.ts", "b/y.ts", .resolved⟩] :=
    FileImports.ofContent_of_file (by decide +kernel) (by decide) (by decide) (by decide)
      (mem_resolver_files.mpr (by decide))
  have hy : FileImports.ofContent (p.resolver ["a/x.ts", "b/y.ts"]) p.matchers "b/y.ts" "" =
      .ofImports [] :=
    FileImports.ofContent_of_tokens [] (by decide +kernel) List.nodup_nil
  let record : FileImports := .ofImports [⟨"../b/y.ts", "b/y.ts", .resolved⟩]
  let s : Survey := ⟨"/", .ofFiles ["a/x.ts", "b/y.ts"], ["a/x.ts", "b/y.ts"],
    .ofList [("a/x.ts", record), ("b/y.ts", .ofImports [])], []⟩
  have hsurvey : p.survey d = .ok s := by
    rw [survey_eq, hcontents, hobstacles]
    simp only [ofContents, List.map_cons, List.map_nil, hx, hy]
    rfl
  have hto : "b/y.ts" ∈ record.resolved :=
    FileImports.mem_resolved_ofImports.mpr ⟨_, List.mem_singleton_self _, rfl, rfl⟩
  have hedge : FolderGraph.EdgeOf ("a/x.ts", record) "a" "b" :=
    ⟨by decide, by decide, "b/y.ts", hto, by decide⟩
  have hmem : ("a/x.ts", record) ∈ s.records.entries :=
    Catalog.get?_eq_some_iff.mp (by simp [s, Catalog.ofList, Catalog.get?_insert])
  obtain ⟨hwhole, hrest⟩ := survey_tellsEdges legal free hsurvey ["b"]
  refine ⟨legal, free, s, hsurvey, fun t ht => ?_⟩
  simp only [List.mem_cons, List.not_mem_nil, or_false] at ht
  rcases ht with rfl | rfl
  · have hab : s.graph.hasEdge "a" "b" := FolderGraph.hasEdge_ofRecords.mpr ⟨_, hmem, hedge⟩
    exact ⟨hab, (hwhole.edge_iff "a" "b").mp ⟨hab, by decide⟩, by decide⟩
  · have hkept : ("a/x.ts", record) ∈ (s.without ["b"]).records.entries :=
      List.mem_filter.mpr ⟨hmem, by decide⟩
    have hab : (s.without ["b"]).graph.hasEdge "a" "b" :=
      FolderGraph.hasEdge_ofRecords.mpr ⟨_, hkept, hedge⟩
    exact ⟨hab, (hrest.edge_iff "a" "b").mp ⟨hab, by decide⟩, by decide⟩

end Plan

end ImportSurvey
