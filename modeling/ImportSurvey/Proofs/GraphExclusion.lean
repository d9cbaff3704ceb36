import ImportSurvey.Proofs.MutualPairs
import ImportSurvey.Proofs.SurveyExclusion

namespace ImportSurvey

namespace FolderGraph

/-- If a file is kept together with its folder, then just the edges of the kept folders are kept. -/
theorem edges_filterKeys {records : Catalog FileImports} {kept : String → Bool}
    (h : ∀ file ∈ records.keys, kept file = kept (Path.parent file)) :
    (ofRecords (records.filterKeys kept)).edges =
      (ofRecords records).edges.filter fun edge => kept edge.1 := by
  refine edges_eq_of_mem_iff ((edges_sorted _).filter _) fun a b => ?_
  simp only [List.mem_filter, mem_edges_iff, hasEdge_ofRecords, Catalog.filterKeys]
  constructor
  · rintro ⟨record, ⟨hr, hk⟩, hedge⟩
    refine ⟨⟨record, hr, hedge⟩, ?_⟩
    rw [hedge.2.1, ← h record.1 (List.mem_map_of_mem hr)]
    exact hk
  · rintro ⟨⟨record, hr, hedge⟩, hk⟩
    rw [hedge.2.1, ← h record.1 (List.mem_map_of_mem hr)] at hk
    exact ⟨record, ⟨hr, hk⟩, hedge⟩

/-- A pair goes with each of its two folders. -/
theorem mutualPairs_of_edges {g whole : FolderGraph} {kept : String → Bool}
    (h : g.edges = whole.edges.filter fun edge => kept edge.1) :
    g.mutualPairs = whole.mutualPairs.filter fun pair => kept pair.first && kept pair.second := by
  have hedge : ∀ a b, g.hasEdge a b = (whole.hasEdge a b && kept a) := fun a b => by
    rw [Bool.eq_iff_iff, Bool.and_eq_true, ← mem_edges_iff, ← mem_edges_iff, h, List.mem_filter]
  rw [mutualPairs, mutualPairs, h, List.filter_filter, List.filter_map, List.filter_filter]
  refine congrArg _ (List.filter_congr fun edge _ => ?_)
  simp only [hedge, Function.comp_apply]
  ac_rfl

end FolderGraph

namespace Survey

variable {s : Survey} {excluded : List String}

/-- As long as no excluded path is a file, leaving folders out takes from the graph just the edges
that start in one of these folders, and from the pairs just those with a folder in one of them. -/
theorem graph_without (h : ∀ e ∈ exclusions excluded, e ∉ s.records.keys) :
    (s.without excluded).graph.edges =
        s.graph.edges.filter (fun edge => outside excluded edge.1) ∧
      (s.without excluded).mutualPairs = s.mutualPairs.filter
        fun pair => outside excluded pair.first && outside excluded pair.second := by
  have hkept : ∀ file ∈ s.records.keys,
      outside excluded file = outside excluded (Path.parent file) := fun file hf => by
    have hnot : file ∉ exclusions excluded := fun he => h file he hf
    rw [Bool.eq_iff_iff, outside_iff_parent]
    exact and_iff_right hnot
  have hedges : (s.without excluded).graph.edges =
      s.graph.edges.filter (fun edge => outside excluded edge.1) :=
    FolderGraph.edges_filterKeys hkept
  exact ⟨hedges, FolderGraph.mutualPairs_of_edges hedges⟩

/-- The pair with the excluded folder goes, but not the edges that lead there: one starts in a
folder whose name only begins alike. -/
theorem graph_without_library :
    let s : Survey := ⟨"/base", .empty, [], .ofList [("app/x.ts", ⟨[], ["lib/y.ts"], []⟩),
      ("lib/y.ts", ⟨[], ["app/x.ts", "z.ts"], []⟩), ("library/w.ts", ⟨[], ["lib/y.ts"], []⟩)], []⟩
    (∀ e ∈ exclusions ["./lib/"], e ∉ s.records.keys) ∧
      s.mutualPairs = [⟨"app", "lib"⟩] ∧
      (s.without ["./lib/"]).graph.edges = [("app", "lib"), ("library", "lib")] ∧
      (s.without ["./lib/"]).mutualPairs = [] := by
  intro s
  have h : ∀ e ∈ exclusions ["./lib/"], e ∉ s.records.keys := by decide
  obtain ⟨hedges, hpairs⟩ := graph_without h
  refine ⟨h, by decide, ?_, ?_⟩
  · rw [hedges]
    decide
  · rw [hpairs]
    decide

end Survey

end ImportSurvey
