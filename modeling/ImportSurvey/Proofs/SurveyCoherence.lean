import ImportSurvey.Proofs.ExtractedTokens
import ImportSurvey.Proofs.FolderEdges
import ImportSurvey.Proofs.FolderFiles
import ImportSurvey.Proofs.PathParent
import ImportSurvey.Proofs.Resolution
import ImportSurvey.Proofs.SurveyContents

namespace ImportSurvey

/-- Nothing in a survey points outside its list of files. -/
structure Survey.Coherent (s : Survey) : Prop where
  /-- There is a record for each file, and for nothing else. -/
  records_iff : ∀ path, path ∈ s.records.keys ↔ path ∈ s.files
  tree_eq : s.tree = .ofFiles s.files
  resolved_mem : ∀ record ∈ s.records.entries, ∀ target ∈ record.2.resolved, target ∈ s.files
  /-- An import within the tree is resolved if its target is a file, and only then. -/
  kind_iff : ∀ record ∈ s.records.entries, ∀ i ∈ record.2.imports, i.isInternal →
    (i.kind = .resolved ↔ i.target ∈ s.files)
  /-- An edge joins two different folders, each of them with files. -/
  edge_ends : ∀ edge ∈ s.graph.edges, edge.1 ≠ edge.2 ∧
    (edge.1 ∈ s.tree.names ∧ 0 < s.tree.fileCount edge.1) ∧
    edge.2 ∈ s.tree.names ∧ 0 < s.tree.fileCount edge.2

namespace FileImports

theorem mem_imports_ofContent {resolver : Resolver} {matchers : List Matcher}
    {file content : String} {i : Import}
    (h : i ∈ (ofContent resolver matchers file content).imports) :
    ∃ found, resolver.resolve? i.raw (Path.parent file) = some found ∧
      i.target = found.target ∧ i.kind = found.kind := by
  obtain ⟨token, _, hi⟩ := List.mem_filterMap.mp h
  obtain ⟨found, hf, rfl⟩ := Option.map_eq_some_iff.mp hi
  exact ⟨found, hf, rfl, rfl⟩

theorem mem_resolved_ofImports {imports : List Import} {target : String} :
    target ∈ (ofImports imports).resolved ↔
      ∃ i ∈ imports, i.kind = .resolved ∧ i.target = target := by
  simp only [ofImports, mem_firstOccurrences, List.mem_map, List.mem_filter, beq_iff_eq, and_assoc]

/-- A token is extracted if a matcher finds it, whatever else is found. -/
theorem mem_extractTokens_of_find {matchers : List Matcher} {m : Matcher} {content token : String}
    (hm : m ∈ matchers) (hfind : some token ∈ m content) (htrim : trimmed token = token)
    (hne : token ≠ "") : token ∈ extractTokens matchers content :=
  mem_extractTokens_iff.mpr ⟨m, hm, mem_tokensOf_iff.mpr ⟨hne, token, hfind, htrim⟩⟩

/-- The imports of a file whose tokens are known. -/
theorem ofContent_of_tokens {resolver : Resolver} {matchers : List Matcher}
    {file content : String} (tokens : List String)
    (htokens : matchers.flatMap (tokensOf · content) = tokens) (hnodup : tokens.Nodup) :
    ofContent resolver matchers file content =
      ofImports (tokens.filterMap (importOf? resolver (Path.parent file))) := by
  rw [ofContent, extractTokens, htokens, firstOccurrences_of_nodup hnodup]

/-- A file with a single token, which is relative and leads to a file. -/
theorem ofContent_of_file {resolver : Resolver} {matchers : List Matcher}
    {file content token target : String}
    (htokens : matchers.flatMap (tokensOf · content) = [token])
    (hrel : Token.isRelative (Token.pathText token))
    (hjoin : Path.join? (Path.parent file) (Token.pathText token) = some target)
    (hne : target ≠ Path.root) (h : target ∈ resolver.files) :
    ofContent resolver matchers file content = .ofImports [⟨token, target, .resolved⟩] := by
  have hfound := Resolver.resolve?_of_file (Token.isRelative_pathText.mp hrel) hjoin hne h
  simp [ofContent_of_tokens _ htokens (List.nodup_singleton _), importOf?, hfound]

/-- A file with a single token, which is relative and leads to no file. -/
theorem ofContent_of_no_file {resolver : Resolver} {matchers : List Matcher}
    {file content token path : String}
    (htokens : matchers.flatMap (tokensOf · content) = [token])
    (hrel : Token.isRelative (Token.pathText token))
    (hjoin : Path.join? (Path.parent file) (Token.pathText token) = some path)
    (h : ∀ c ∈ resolver.candidates path, c ∉ resolver.files) :
    ofContent resolver matchers file content = .ofImports [⟨token, path, .unresolved⟩] := by
  have hfound := Resolver.resolve?_of_no_file (Token.isRelative_pathText.mp hrel) hjoin h
  simp [ofContent_of_tokens _ htokens (List.nodup_singleton _), importOf?, hfound]

/-- What a token of the content resolves to is imported. -/
theorem mem_resolved_ofContent {resolver : Resolver} {matchers : List Matcher}
    {file content target token : String} (htoken : token ∈ extractTokens matchers content)
    (h : resolver.resolve? token (Path.parent file) = some ⟨target, .resolved⟩) :
    target ∈ (ofContent resolver matchers file content).resolved :=
  mem_resolved_ofImports.mpr ⟨⟨token, target, .resolved⟩,
    List.mem_filterMap.mpr ⟨token, htoken, by simp [importOf?, h]⟩, rfl, rfl⟩

/-- Among the files that a resolver knows, an import is resolved exactly if its target is one. -/
theorem kind_iff_ofContent {resolver : Resolver} {matchers : List Matcher} {file content : String}
    (hroot : Path.root ∉ resolver.files) {i : Import}
    (h : i ∈ (ofContent resolver matchers file content).imports) (hint : i.isInternal) :
    i.kind = .resolved ↔ i.target ∈ resolver.files := by
  obtain ⟨found, hf, htarget, hkind⟩ := mem_imports_ofContent h
  have hinside : found.isInternal := by
    simpa [Import.isInternal, Resolution.isInternal, hkind] using hint
  rw [htarget, hkind]
  exact Resolver.resolved_iff_mem hroot hf hinside

theorem resolved_mem_ofContent {resolver : Resolver} {matchers : List Matcher}
    {file content target : String} (hroot : Path.root ∉ resolver.files)
    (h : target ∈ (ofContent resolver matchers file content).resolved) :
    target ∈ resolver.files := by
  obtain ⟨i, hi, hkind, rfl⟩ := mem_resolved_ofImports.mp h
  exact (kind_iff_ofContent hroot hi (by simp [Import.isInternal, hkind])).mp hkind

end FileImports

namespace Plan

theorem mem_resolver_files {p : Plan} {files : List String} {path : String} :
    path ∈ (p.resolver files).files ↔ path ∈ files := by
  simp [resolver, Std.HashSet.mem_ofList]

theorem mem_records_ofContents {p : Plan} {contents : List (String × String)}
    {issues : List Issue} {record : String × FileImports}
    (h : record ∈ (p.ofContents contents issues).records.entries) :
    ∃ text, (record.1, text) ∈ contents ∧
      record.2 = .ofContent (p.resolver (contents.map Prod.fst)) p.matchers record.1 text := by
  obtain ⟨⟨file, text⟩, hc, rfl⟩ := List.mem_map.mp (Catalog.mem_of_mem_ofList h)
  exact ⟨text, hc, rfl⟩

/-- Each counted file has the record of its content. -/
theorem mem_records_of_mem_contents {d : Disk} {p : Plan} {file text : String}
    (issues : List Issue) (h : (file, text) ∈ p.contents d) :
    (file, FileImports.ofContent (p.resolver ((p.contents d).map Prod.fst)) p.matchers file text) ∈
      (p.ofContents (p.contents d) issues).records.entries := by
  have hkey : file ∈ (p.ofContents (p.contents d) issues).records.keys :=
    Catalog.mem_keys_ofList.mpr (by simpa using ⟨text, h⟩)
  obtain ⟨imports, hget⟩ := Catalog.mem_keys_iff.mp hkey
  have hmem := Catalog.get?_eq_some_iff.mp hget
  obtain ⟨other, ho, heq⟩ := mem_records_ofContents hmem
  obtain ⟨_, _, _, hread⟩ := mem_contents_iff.mp h
  obtain ⟨_, _, _, hread'⟩ := mem_contents_iff.mp ho
  cases Except.ok.inj (hread.symm.trans hread')
  exact heq ▸ hmem

/-- A file of the survey that holds a relative token imports the file that the token leads to. -/
theorem exists_importing {d : Disk} {p : Plan} {file text token target : String}
    (issues : List Issue) (h : (file, text) ∈ p.contents d)
    (htoken : token ∈ extractTokens p.matchers text) (hrel : Token.Relative token)
    (hjoin : Path.join? (Path.parent file) (Token.pathText token) = some target)
    (htarget : target ∈ (p.contents d).map Prod.fst) (hne : target ≠ Path.root) :
    ∃ record ∈ (p.ofContents (p.contents d) issues).records.entries,
      record.1 = file ∧ target ∈ record.2.resolved := by
  refine ⟨_, mem_records_of_mem_contents issues h, rfl,
    FileImports.mem_resolved_ofContent htoken ?_⟩
  exact Resolver.resolve?_of_file hrel hjoin hne (mem_resolver_files.mpr htarget)

theorem coherent_ofContents {p : Plan} {contents : List (String × String)} (issues : List Issue)
    (hroot : Path.root ∉ contents.map Prod.fst) : (p.ofContents contents issues).Coherent := by
  have hroot' : Path.root ∉ (p.resolver (contents.map Prod.fst)).files := fun hm =>
    hroot (mem_resolver_files.mp hm)
  have hkeys : ∀ path, path ∈ (p.ofContents contents issues).records.keys ↔
      path ∈ contents.map Prod.fst := by
    intro path
    simp [ofContents, Catalog.mem_keys_ofList]
  have hresolved : ∀ record ∈ (p.ofContents contents issues).records.entries,
      ∀ target ∈ record.2.resolved, target ∈ contents.map Prod.fst := by
    intro record hr target ht
    obtain ⟨text, _, heq⟩ := mem_records_ofContents hr
    rw [heq] at ht
    exact mem_resolver_files.mp (FileImports.resolved_mem_ofContent hroot' ht)
  refine ⟨hkeys, rfl, hresolved, ?_, ?_⟩
  · intro record hr i hi hint
    obtain ⟨text, _, heq⟩ := mem_records_ofContents hr
    rw [heq] at hi
    exact (FileImports.kind_iff_ofContent hroot' hi hint).trans mem_resolver_files
  · rintro ⟨a, b⟩ he
    obtain ⟨record, hr, hne, rfl, target, ht, rfl⟩ :=
      FolderGraph.hasEdge_ofRecords.mp (FolderGraph.mem_edges_iff.mp he)
    have hfile : record.1 ∈ contents.map Prod.fst :=
      (hkeys record.1).mp (List.mem_map_of_mem hr)
    have hsource := FolderTree.mem_names_ofFiles.mpr ⟨record.1, hfile, rfl⟩
    have htarget := FolderTree.mem_names_ofFiles.mpr ⟨target, hresolved record hr target ht, rfl⟩
    exact ⟨hne, ⟨hsource, FolderTree.fileCount_pos_iff.mpr hsource⟩, htarget,
      FolderTree.fileCount_pos_iff.mpr htarget⟩

theorem root_not_mem_contents (d : Disk) (p : Plan) : Path.root ∉ (p.contents d).map Prod.fst := by
  intro hm
  rw [contents_paths] at hm
  obtain ⟨names, hn, hroot⟩ := List.mem_map.mp hm
  exact walkPath_ne_root hn hroot

theorem survey_coherent {d : Disk} {p : Plan} {s : Survey} (h : p.survey d = .ok s) :
    s.Coherent := by
  obtain ⟨issues, rfl⟩ := survey_eq_ofContents h
  exact coherent_ofContents issues (root_not_mem_contents d p)

/-- A file imports one in another folder, which imports a third one, which cannot be read. -/
theorem survey_coherent_bestEffort :
    let toY : DiskEntry := .file true [0x2e, 0x2e, 0x2f, 0x62, 0x2f, 0x79, 0x2e, 0x74, 0x73]
    let toZ : DiskEntry := .file true [0x2e, 0x2f, 0x7a, 0x2e, 0x74, 0x73]
    let inner : DiskEntry := .folder true [("a", .folder true [("x.ts", toY)]),
      ("b", .folder true [("y.ts", toZ), ("z.ts", .file false [])]), ("c", .link "a")]
    let d : Disk := ⟨.folder true [("base", inner)], "/"⟩
    let p : Plan := ⟨"base", ["ts"],
      [⟨"((?s:.)+)", .ofExpr (.group 1 (.times 1 none true (.oneOf .all)))⟩], .ofNames [], none,
      .bestEffort⟩
    ∃ s, p.survey d = .ok s ∧ s.Coherent ∧ s.files = ["a/x.ts", "b/y.ts"] ∧
      s.records = .ofList [("a/x.ts", .ofImports [⟨"../b/y.ts", "b/y.ts", .resolved⟩]),
        ("b/y.ts", .ofImports [⟨"./z.ts", "b/z.ts", .unresolved⟩])] ∧
      ("a", "b") ∈ s.graph.edges ∧
      s.issues =
        [⟨"b/z.ts", "I/O error: Permission denied (os error 13) (path: base/b/z.ts)"⟩] := by
  intro toY toZ inner d p
  have hcontents : p.contents d = [("a/x.ts", "../b/y.ts"), ("b/y.ts", "./z.ts")] := by
    decide +kernel
  have hobstacles : p.obstacles d = [.onReading "b/z.ts" "base/b/z.ts" .denied] := by decide +kernel
  have hsurvey := survey_eq d p
  rw [hcontents, hobstacles] at hsurvey
  have hfiles : ∀ path, path ∈ (p.resolver ["a/x.ts", "b/y.ts"]).files ↔
      path ∈ ["a/x.ts", "b/y.ts"] := fun _ => mem_resolver_files
  have hx : FileImports.ofContent (p.resolver ["a/x.ts", "b/y.ts"]) p.matchers "a/x.ts"
      "../b/y.ts" = .ofImports [⟨"../b/y.ts", "b/y.ts", .resolved⟩] :=
    FileImports.ofContent_of_file (by decide +kernel) (by decide) (by decide) (by decide)
      ((hfiles _).mpr (by decide))
  have hy : FileImports.ofContent (p.resolver ["a/x.ts", "b/y.ts"]) p.matchers "b/y.ts"
      "./z.ts" = .ofImports [⟨"./z.ts", "b/z.ts", .unresolved⟩] := by
    refine FileImports.ofContent_of_no_file (by decide +kernel) (by decide) (by decide) ?_
    simp only [hfiles]
    decide
  have hrecords : ∀ issues, (p.ofContents [("a/x.ts", "../b/y.ts"), ("b/y.ts", "./z.ts")]
      issues).records = .ofList [("a/x.ts", .ofImports [⟨"../b/y.ts", "b/y.ts", .resolved⟩]),
        ("b/y.ts", .ofImports [⟨"./z.ts", "b/z.ts", .unresolved⟩])] := by
    intro issues
    simp only [ofContents, List.map_cons, List.map_nil, hx, hy]
  refine ⟨_, hsurvey, survey_coherent hsurvey, rfl, hrecords _, ?_, by decide⟩
  have hresolved :
      "b/y.ts" ∈ (FileImports.ofImports [⟨"../b/y.ts", "b/y.ts", .resolved⟩]).resolved :=
    FileImports.mem_resolved_ofImports.mpr ⟨_, List.mem_singleton_self _, rfl, rfl⟩
  rw [FolderGraph.mem_edges_iff, Survey.graph, hrecords]
  exact FolderGraph.hasEdge_ofRecords.mpr
    ⟨_, .head _, by decide, by decide, "b/y.ts", hresolved, by decide⟩

end Plan

end ImportSurvey
