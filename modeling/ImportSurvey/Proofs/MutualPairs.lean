import ImportSurvey.Proofs.FolderEdges

namespace ImportSurvey

/-- One pair comes before another: by the first folder, and for equal ones by the second. -/
def MutualPair.Before (p q : MutualPair) : Prop :=
  p.first < q.first ∨ p.first = q.first ∧ p.second < q.second

namespace FolderGraph

variable {g : FolderGraph} {records : Catalog FileImports}

theorem mem_mutualPairs_iff {pair : MutualPair} :
    pair ∈ g.mutualPairs ↔ pair.first < pair.second ∧
      g.hasEdge pair.first pair.second ∧ g.hasEdge pair.second pair.first := by
  obtain ⟨a, b⟩ := pair
  simp only [mutualPairs, List.mem_map, List.mem_filter, Bool.and_eq_true, decide_eq_true_eq]
  constructor
  · rintro ⟨edge, ⟨he, hlt, hback⟩, heq⟩
    obtain ⟨rfl, rfl⟩ := MutualPair.mk.inj heq
    exact ⟨hlt, mem_edges_iff.mp he, hback⟩
  · rintro ⟨hlt, hedge, hback⟩
    exact ⟨(a, b), ⟨mem_edges_iff.mpr hedge, hlt, hback⟩, rfl⟩

theorem mutualPairs_sorted (g : FolderGraph) : g.mutualPairs.Pairwise MutualPair.Before := by
  rw [mutualPairs, List.pairwise_map]
  exact (g.edges_sorted.filter _).imp fun h => Prod.lex_def.mp h

/-- There are pairs to list as soon as two folders have edges both ways. -/
theorem mutualPairs_ne_nil_iff :
    g.mutualPairs ≠ [] ↔ ∃ a b, a ≠ b ∧ g.hasEdge a b ∧ g.hasEdge b a := by
  constructor
  · intro h
    obtain ⟨pair, hp⟩ := List.exists_mem_of_ne_nil _ h
    obtain ⟨hlt, hedge, hback⟩ := mem_mutualPairs_iff.mp hp
    exact ⟨_, _, String.ne_of_lt hlt, hedge, hback⟩
  · rintro ⟨a, b, hne, hedge, hback⟩
    by_cases hlt : a < b
    · have hp : ⟨a, b⟩ ∈ g.mutualPairs := mem_mutualPairs_iff.mpr ⟨hlt, hedge, hback⟩
      exact List.ne_nil_of_mem hp
    · have hgt := Catalog.lt_of_not_lt_of_ne hlt hne
      have hp : ⟨b, a⟩ ∈ g.mutualPairs := mem_mutualPairs_iff.mpr ⟨hgt, hback, hedge⟩
      exact List.ne_nil_of_mem hp

/-- Two files in different folders, each of which imports a file from the folder of the other. -/
def ImportsBothWays (records : Catalog FileImports) : Prop :=
  ∃ f ∈ records.entries, ∃ g ∈ records.entries, ∃ t ∈ f.2.resolved, ∃ u ∈ g.2.resolved,
    Path.parent f.1 = Path.parent u ∧ Path.parent t = Path.parent g.1 ∧
      Path.parent f.1 ≠ Path.parent g.1

theorem mutualPairs_ofRecords_ne_nil_iff :
    (ofRecords records).mutualPairs ≠ [] ↔ ImportsBothWays records := by
  simp only [mutualPairs_ne_nil_iff, hasEdge_ofRecords]
  constructor
  · rintro ⟨a, b, hne, ⟨f, hf, _, rfl, t, ht, rfl⟩, g, hg, _, hparent, u, hu, hback⟩
    exact ⟨f, hf, g, hg, t, ht, u, hu, hback, hparent, fun h => hne (h.trans hparent.symm)⟩
  · rintro ⟨f, hf, g, hg, t, ht, u, hu, hback, hto, hne⟩
    exact ⟨_, _, hne, ⟨f, hf, hne, rfl, t, ht, hto.symm⟩, g, hg, hne.symm, rfl, u, hu, hback⟩

/-- A graph tells the imports of some files exactly, and lists each pair of folders with imports
both ways once and in order. -/
structure Tells (g : FolderGraph) (records : Catalog FileImports) : Prop where
  hasEdge_iff : ∀ a b, g.hasEdge a b ↔ a ≠ b ∧ ∃ record ∈ records.entries,
    ∃ target ∈ record.2.resolved, Path.parent record.1 = a ∧ Path.parent target = b
  pairs_increasing : g.mutualPairs.Pairwise MutualPair.Before
  pair_ordered : ∀ pair ∈ g.mutualPairs, pair.first < pair.second
  mem_pairs_iff : ∀ a b, ⟨a, b⟩ ∈ g.mutualPairs ↔ a < b ∧ g.hasEdge a b ∧ g.hasEdge b a

theorem tells_ofRecords (records : Catalog FileImports) : (ofRecords records).Tells records where
  hasEdge_iff a b := by
    rw [hasEdge_ofRecords]
    constructor
    · rintro ⟨record, hr, hne, rfl, target, ht, rfl⟩
      exact ⟨hne, record, hr, target, ht, rfl, rfl⟩
    · rintro ⟨hne, record, hr, target, ht, rfl, rfl⟩
      exact ⟨record, hr, hne, rfl, target, ht, rfl⟩
  pairs_increasing := mutualPairs_sorted _
  pair_ordered _ h := (mem_mutualPairs_iff.mp h).1
  mem_pairs_iff _ _ := mem_mutualPairs_iff

end FolderGraph

end ImportSurvey
