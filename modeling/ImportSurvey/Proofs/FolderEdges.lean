import Mathlib.Data.Prod.Lex
import Mathlib.Data.String.Basic
import ImportSurvey.Folder.Graph
import ImportSurvey.Proofs.CatalogLookup

namespace ImportSurvey

theorem NameSet.contains_add {s : NameSet} {name other : String} :
    (s.add name).contains other ↔ other = name ∨ s.contains other := by
  rw [Catalog.contains_iff, Catalog.contains_iff]
  exact Catalog.keys_alter

namespace FolderGraph

theorem hasEdge_eq (g : FolderGraph) (a b : String) :
    g.hasEdge a b = ((g.targets.get? a).getD .empty).contains b := by
  unfold hasEdge
  cases g.targets.get? a <;> rfl

theorem hasEdge_addEdge (g : FolderGraph) (source target a b : String) :
    (g.addEdge source target).hasEdge a b ↔
      g.hasEdge a b ∨ a ≠ b ∧ a = source ∧ b = target := by
  unfold addEdge
  split
  next h =>
    subst h
    simp only [iff_self_or]
    rintro ⟨hne, rfl, rfl⟩
    exact absurd rfl hne
  next h =>
    simp only [hasEdge_eq, Catalog.get?_alter]
    by_cases ha : a = source
    · subst ha
      simp only [if_true, Option.getD_some, NameSet.contains_add]
      constructor
      · rintro (rfl | hb)
        · exact .inr ⟨Ne.symm h, trivial, rfl⟩
        · exact .inl hb
      · rintro (hb | ⟨_, _, rfl⟩)
        · exact .inr hb
        · exact .inl rfl
    · simp [ha]

/-- A file gives its folder an edge to each other folder of a file that it imports. -/
def EdgeOf (entry : String × FileImports) (a b : String) : Prop :=
  a ≠ b ∧ a = Path.parent entry.1 ∧ ∃ target ∈ entry.2.resolved, b = Path.parent target

theorem hasEdge_addFile (g : FolderGraph) (entry : String × FileImports) (a b : String) :
    (g.addFile entry).hasEdge a b ↔ g.hasEdge a b ∨ EdgeOf entry a b := by
  refine (foldl_iff (P := fun g : FolderGraph => g.hasEdge a b)
    (fun g target => g.hasEdge_addEdge _ (Path.parent target) a b) g entry.2.resolved).trans ?_
  constructor
  · rintro (h | ⟨target, ht, hne, ha, hb⟩)
    · exact .inl h
    · exact .inr ⟨hne, ha, target, ht, hb⟩
  · rintro (h | ⟨hne, ha, target, ht, hb⟩)
    · exact .inl h
    · exact .inr ⟨target, ht, hne, ha, hb⟩

/-- The edges of the graph are those of the files. -/
theorem hasEdge_ofRecords {records : Catalog FileImports} {a b : String} :
    (ofRecords records).hasEdge a b ↔ ∃ entry ∈ records.entries, EdgeOf entry a b := by
  refine (foldl_iff (P := fun g : FolderGraph => g.hasEdge a b)
    (fun g entry => g.hasEdge_addFile entry a b) empty records.entries).trans ?_
  simp [hasEdge, empty]

theorem mem_edges_iff {g : FolderGraph} {a b : String} : (a, b) ∈ g.edges ↔ g.hasEdge a b := by
  simp only [hasEdge, Option.any_eq_true, edges, List.mem_flatMap]
  constructor
  · rintro ⟨⟨source, names⟩, he, hm⟩
    obtain ⟨target, ht, hpair⟩ := List.mem_map.mp hm
    obtain ⟨rfl, rfl⟩ := Prod.mk.inj hpair
    exact ⟨names, Catalog.get?_eq_some_iff.mpr he, Catalog.contains_iff.mpr ht⟩
  · rintro ⟨names, hg, hb⟩
    exact ⟨(a, names), Catalog.get?_eq_some_iff.mp hg,
      List.mem_map.mpr ⟨b, Catalog.contains_iff.mp hb, rfl⟩⟩

/-- Edges come in the order of their sources, and those of one source in the order of their
targets. -/
theorem edges_sorted (g : FolderGraph) : g.edges.Pairwise (Prod.Lex (· < ·) (· < ·)) := by
  rw [edges, List.pairwise_flatMap]
  constructor
  · intro e _
    rw [List.pairwise_map]
    exact e.2.keys_pairwise.imp fun hlt => Prod.Lex.right _ hlt
  · refine g.targets.sorted.imp fun hlt edge he other ho => ?_
    obtain ⟨_, _, rfl⟩ := List.mem_map.mp he
    obtain ⟨_, _, rfl⟩ := List.mem_map.mp ho
    exact Prod.Lex.left _ _ hlt

/-- A list of edges in order is the list of a graph if it holds the edges of the graph. -/
theorem edges_eq_of_mem_iff {g : FolderGraph} {list : List (String × String)}
    (sorted : list.Pairwise (Prod.Lex (· < ·) (· < ·)))
    (h : ∀ a b, g.hasEdge a b ↔ (a, b) ∈ list) : g.edges = list :=
  g.edges_sorted.eq_of_mem_iff sorted fun e => mem_edges_iff.trans (h e.1 e.2)

end FolderGraph

end ImportSurvey
