import ImportSurvey.Proofs.ImportViews
import ImportSurvey.Report.Dump

namespace ImportSurvey

namespace FileImports

variable {r : Resolver} {matchers : List Matcher} {file content : String}

theorem eq_of_external {i : Import} (hi : i ∈ (ofContent r matchers file content).imports)
    (hkind : i.kind = .external) : i = ⟨i.target, i.target, .external⟩ := by
  obtain ⟨found, hfound, htarget, hkind'⟩ := mem_imports_ofContent hi
  have hraw : i.target = i.raw :=
    htarget.trans (Resolver.target_of_external hfound (hkind'.symm.trans hkind))
  obtain ⟨raw, target, kind⟩ := i
  simp_all

end FileImports

namespace Report.Dump

variable {record : FileImports} {target : String}

/-- The note that stands for a kind. -/
def kindNote : TargetKind → String
  | .external => " (external)"
  | .unresolved => " (unresolved)"
  | .resolved => ""

theorem note_of_find? {i : Import} (h : record.imports.find? (·.target == target) = some i) :
    note record target = kindNote i.kind := by
  unfold note
  rw [h]
  cases hkind : i.kind <;> simp [kindNote, hkind]

/-- The first import that leads to the target is that of the bare token. -/
def BareFirst (record : FileImports) (target : String) : Prop :=
  ∃ before after, record.imports = before ++ ⟨target, target, .external⟩ :: after ∧
    ∀ i ∈ before, i.target ≠ target

theorem bareFirst_iff : BareFirst record target ↔
    record.imports.find? (·.target == target) = some ⟨target, target, .external⟩ := by
  simp [BareFirst, List.find?_eq_some_iff_append]

/-- The note of a target agrees with the list of resolved targets, or it is `hidden` that the target
lies in the tree. -/
structure Tells (record : FileImports) (target : String) (hidden : Prop) : Prop where
  resolved_iff : note record target = "" ↔ ¬hidden ∧ target ∈ record.resolved
  unresolved_iff : note record target = " (unresolved)" ↔ ¬hidden ∧ target ∉ record.resolved ∧
    ∃ i ∈ record.imports, i.target = target ∧ i.kind = .unresolved
  external_iff : note record target = " (external)" ↔ hidden ∨ target ∉ record.resolved ∧
    ¬∃ i ∈ record.imports, i.target = target ∧ i.kind = .unresolved

theorem exists_first {imports : List Import} (h : target ∈ imports.map (·.target)) :
    ∃ i ∈ imports, i.target = target ∧ imports.find? (·.target == target) = some i := by
  obtain ⟨j, hj, heq⟩ := List.mem_map.mp h
  cases hfirst : imports.find? (·.target == target) with
  | none => exact absurd heq (by simpa using List.find?_eq_none.mp hfirst j hj)
  | some i =>
    have hi : i.target = target := by simpa using List.find?_some hfirst
    exact ⟨i, List.mem_of_find?_eq_some hfirst, hi, rfl⟩

/-- The note of a target agrees with the list of resolved targets, unless its bare token comes
first. -/
theorem tells_ofContent {r : Resolver} {matchers : List Matcher} {file content : String}
    (hof : record = .ofContent r matchers file content) (htarget : target ∈ record.all) :
    Tells record target (BareFirst record target) := by
  have hall : target ∈ record.imports.map (·.target) := by
    subst hof
    exact mem_firstOccurrences.mp htarget
  have hresolved : target ∈ record.resolved ↔
      ∃ i ∈ record.imports, i.kind = .resolved ∧ i.target = target := by
    subst hof
    exact FileImports.mem_resolved_ofImports
  obtain ⟨i, hi, rfl, hfirst⟩ := exists_first hall
  have hnote := note_of_find? hfirst
  have hbare : BareFirst record i.target ↔ i.kind = .external := by
    rw [bareFirst_iff, hfirst, Option.some.injEq]
    exact ⟨fun h => by rw [h], FileImports.eq_of_external (hof ▸ hi)⟩
  cases hkind : i.kind with
  | resolved =>
    have hmem := hresolved.mpr ⟨i, hi, hkind, rfl⟩
    constructor <;> simp [hnote, hbare, hkind, hmem, kindNote]
  | unresolved =>
    have hlisted : ∃ j ∈ record.imports, j.target = i.target ∧ j.kind = .unresolved :=
      ⟨i, hi, rfl, hkind⟩
    have hmem : i.target ∉ record.resolved := fun h => by
      obtain ⟨j, hj, hfile, heq⟩ := hresolved.mp h
      exact FileImports.target_ne_ofContent (hof ▸ hj) (hof ▸ hi) hfile hkind heq
    constructor <;> simp only [hnote, hbare, hkind, hmem, hlisted, kindNote] <;> decide
  | external => constructor <;> simp [hnote, hbare, hkind, kindNote]

theorem fileLines_infix {s : Survey} {file : String} (h : file ∈ s.files) :
    fileLines s file <:+: lines s := by
  obtain ⟨front, back, hfiles⟩ := List.append_of_mem h
  have hblock : fileLines s file <:+: s.files.flatMap (fileLines s) := by
    rw [hfiles, List.flatMap_append, List.flatMap_cons, ← List.append_assoc]
    exact List.infix_append _ _ _
  have hne : ¬s.files.isEmpty := by simp [hfiles]
  rw [lines, if_neg hne]
  refine hblock.trans ?_
  rw [List.append_assoc]
  exact List.infix_append _ _ _

/-- The imports of a file that names another one first by its path and then by a relative token. -/
def bareRecord : FileImports :=
  { all := ["a/util.ts", "b/y.ts", "b/gone"]
    resolved := ["a/util.ts", "b/y.ts"]
    imports := [⟨"a/util.ts", "a/util.ts", .external⟩, ⟨"../a/util.ts", "a/util.ts", .resolved⟩,
      ⟨"./y.ts", "b/y.ts", .resolved⟩, ⟨"./gone", "b/gone", .unresolved⟩] }

def bareResolver : Resolver := ⟨.ofList ["a/util.ts", "b/x.ts", "b/y.ts"], ["ts"], none⟩

/-- These are the imports that a pattern finds. -/
theorem exists_bareRecord : ∃ pattern, ImportPattern.ofText "(.+)" = .ok pattern ∧
    bareRecord = .ofContent bareResolver [pattern.groupTexts] "b/x.ts"
      "a/util.ts\n../a/util.ts\n./y.ts\n./gone" := by
  obtain ⟨pattern, hpattern, htokens⟩ : ∃ pattern, ImportPattern.ofText "(.+)" = .ok pattern ∧
      extractTokens [pattern.groupTexts] "a/util.ts\n../a/util.ts\n./y.ts\n./gone" =
        ["a/util.ts", "../a/util.ts", "./y.ts", "./gone"] := by
    have htexts : (ImportPattern.ofText "(.+)").toOption.map
        (·.groupTexts "a/util.ts\n../a/util.ts\n./y.ts\n./gone") =
          some [some "a/util.ts", some "../a/util.ts", some "./y.ts", some "./gone"] := by
      decide +kernel
    exact FileImports.exists_pattern htexts (by decide)
  refine ⟨pattern, hpattern, ?_⟩
  have hbare : bareResolver.resolve? "a/util.ts" "b" = some ⟨"a/util.ts", .external⟩ := by decide
  have hutil : bareResolver.resolve? "../a/util.ts" "b" = some ⟨"a/util.ts", .resolved⟩ :=
    Resolver.resolve?_of_file (Token.isRelative_pathText.mp (by decide)) (by decide) (by decide)
      (by simp [bareResolver, Std.HashSet.mem_ofList])
  have hy : bareResolver.resolve? "./y.ts" "b" = some ⟨"b/y.ts", .resolved⟩ :=
    Resolver.resolve?_of_file (Token.isRelative_pathText.mp (by decide)) (by decide) (by decide)
      (by simp [bareResolver, Std.HashSet.mem_ofList])
  have hgone : bareResolver.resolve? "./gone" "b" = some ⟨"b/gone", .unresolved⟩ :=
    Resolver.resolve?_of_no_file (Token.isRelative_pathText.mp (by decide)) (by decide)
      (by simp [bareResolver, Resolver.candidates, Std.HashSet.mem_ofList, Path.root])
  have hfolder : Path.parent "b/x.ts" = "b" := by decide
  have himports : ["a/util.ts", "../a/util.ts", "./y.ts", "./gone"].filterMap
      (FileImports.importOf? bareResolver "b") = bareRecord.imports := by
    simp [FileImports.importOf?, hbare, hutil, hy, hgone, bareRecord]
  rw [FileImports.ofContent, htokens, hfolder, himports, FileImports.ofImports,
    firstOccurrences_eq_eraseDups, firstOccurrences_eq_eraseDups]
  decide

def bareSurvey : Survey :=
  ⟨"/base", .ofFiles ["a/util.ts", "b/x.ts", "b/y.ts"], ["a/util.ts", "b/x.ts", "b/y.ts"],
    .ofList [("a/util.ts", .empty), ("b/x.ts", bareRecord), ("b/y.ts", .empty)], []⟩

/-- Here the file is imported, and makes an edge between two folders, but is shown as external. -/
theorem not_tells_of_bare_first :
    (∃ pattern, ImportPattern.ofText "(.+)" = .ok pattern ∧
      bareSurvey.records.get? "b/x.ts" = some (.ofContent bareResolver [pattern.groupTexts] "b/x.ts"
        "a/util.ts\n../a/util.ts\n./y.ts\n./gone")) ∧
    "a/util.ts" ∈ bareRecord.all ∧ "a/util.ts" ∈ bareRecord.resolved ∧
    bareSurvey.graph.hasEdge "b" "a" ∧
    "  -> a/util.ts (external)" ∈ lines bareSurvey ∧ ¬Tells bareRecord "a/util.ts" False := by
  obtain ⟨pattern, hpattern, hof⟩ := exists_bareRecord
  refine ⟨⟨pattern, hpattern, ?_⟩, by decide, by decide, by decide, by decide, fun h => ?_⟩
  · rw [← hof]
    decide
  · exact absurd (h.resolved_iff.mpr ⟨not_false, by decide⟩) (by decide)

/-- The dump prints the targets of a file that was read, each with a note that agrees with the list
of resolved targets, unless the bare token of the target comes first. -/
theorem dump_tells {s : Survey} {r : Resolver} {matchers : List Matcher} {file content : String}
    (hfile : file ∈ s.files) (hrecord : s.records.get? file = some record)
    (hof : record = .ofContent r matchers file content) (htarget : target ∈ record.all) :
    (file :: record.all.map fun t => "  -> " ++ t ++ note record t) <:+: lines s ∧
      Tells record target (BareFirst record target) := by
  have hlines : fileLines s file = file :: record.all.map (targetLine record) := by
    simp [fileLines, hrecord, List.ne_nil_of_mem htarget]
  refine ⟨?_, tells_ofContent hof htarget⟩
  have hinfix := fileLines_infix hfile
  rwa [hlines] at hinfix

/-- The target that is hidden, a file that is not, and a path without a file. -/
theorem dump_tells_bareRecord :
    ["b/x.ts", "  -> a/util.ts (external)", "  -> b/y.ts", "  -> b/gone (unresolved)"] <:+:
      lines bareSurvey ∧
    Tells bareRecord "a/util.ts" (BareFirst bareRecord "a/util.ts") ∧
    BareFirst bareRecord "a/util.ts" ∧ ¬BareFirst bareRecord "b/y.ts" ∧
    ¬BareFirst bareRecord "b/gone" := by
  obtain ⟨pattern, _, hof⟩ := exists_bareRecord
  have hfile : "b/x.ts" ∈ bareSurvey.files := by decide
  have hrecord : bareSurvey.records.get? "b/x.ts" = some bareRecord := by decide
  obtain ⟨hlines, htells⟩ := dump_tells hfile hrecord hof (show "a/util.ts" ∈ _ by decide)
  refine ⟨hlines, htells, ?_, ?_, ?_⟩ <;> rw [bareFirst_iff] <;> decide

end Report.Dump

end ImportSurvey
