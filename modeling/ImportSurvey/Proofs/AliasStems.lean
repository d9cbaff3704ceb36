import ImportSurvey.Alias
import ImportSurvey.Proofs.TextCuts

namespace ImportSurvey

/-- Whether the token begins with the stem of the alias. -/
def Alias.Starts (a : Alias) (token : String) : Prop := a.stem.toList <+: token.toList

namespace AliasTable

/-- The alias starts the token, which goes on with `rest`, and no alias of the table with a longer
stem starts it. -/
structure Longest (t : AliasTable) (token : String) (a : Alias) (rest : String) : Prop where
  mem : a ∈ t.entries
  token_eq : token = a.stem ++ rest
  longest : ∀ b ∈ t.entries, b.Starts token → b.stem.length ≤ a.stem.length

theorem Longest.starts {t : AliasTable} {token rest : String} {a : Alias}
    (h : t.Longest token a rest) : a.Starts token := by
  simp [Alias.Starts, h.token_eq]

/-- Of two stems of one token, the one with fewer bytes has fewer characters. -/
theorem length_le_of_starts {a b : Alias} {token : String} (ha : a.Starts token)
    (hb : b.Starts token) (h : b.stem.utf8ByteSize ≤ a.stem.utf8ByteSize) :
    b.stem.length ≤ a.stem.length := by
  rcases List.prefix_or_prefix_of_prefix ha hb with hp | hp
  · obtain ⟨more, hmore⟩ := hp
    have hstem : b.stem = a.stem ++ String.ofList more := by
      apply String.toList_inj.mp
      simp [hmore]
    have hsize : (String.ofList more).utf8ByteSize = 0 := by
      rw [hstem, String.utf8ByteSize_append] at h
      omega
    have hequal : b.stem = a.stem := by
      rw [hstem, String.utf8ByteSize_eq_zero_iff.mp hsize, String.append_empty]
    exact Nat.le_of_eq (congrArg String.length hequal)
  · simpa only [String.length_toList] using hp.length_le

theorem eq_of_stem_eq {t : AliasTable} {a b : Alias} (ha : a ∈ t.entries) (hb : b ∈ t.entries)
    (h : a.stem = b.stem) : a = b := by
  obtain ⟨i, hi, rfl⟩ := List.mem_iff_getElem.mp ha
  obtain ⟨j, hj, rfl⟩ := List.mem_iff_getElem.mp hb
  rcases Nat.lt_trichotomy i j with hlt | rfl | hlt
  · exact absurd h (List.pairwise_iff_getElem.mp t.distinct i j hi hj hlt)
  · rfl
  · exact absurd h.symm (List.pairwise_iff_getElem.mp t.distinct j i hj hi hlt)

theorem Longest.unique {t : AliasTable} {token rest rest' : String} {a b : Alias}
    (ha : t.Longest token a rest) (hb : t.Longest token b rest') : a = b ∧ rest = rest' := by
  have hlen : a.stem.length = b.stem.length :=
    Nat.le_antisymm (hb.longest a ha.mem ha.starts) (ha.longest b hb.mem hb.starts)
  have htoken : a.stem.toList ++ rest.toList = b.stem.toList ++ rest'.toList := by
    have := congrArg String.toList (ha.token_eq.symm.trans hb.token_eq)
    simpa using this
  obtain ⟨hstem, hrest⟩ := List.append_inj htoken (by simpa only [String.length_toList] using hlen)
  exact ⟨eq_of_stem_eq ha.mem hb.mem (String.toList_inj.mp hstem), String.toList_inj.mp hrest⟩

theorem match?_eq_none_iff {t : AliasTable} {token : String} :
    t.match? token = none ↔ ∀ a ∈ t.entries, ¬a.Starts token := by
  rw [match?, List.findSome?_eq_none_iff]
  refine forall₂_congr fun a _ => ?_
  rw [Option.map_eq_none_iff, Option.eq_none_iff_forall_ne_some]
  simp only [ne_eq, Text.after?_eq_some_iff, Alias.Starts]
  constructor
  · rintro h ⟨rest, hrest⟩
    exact h rest hrest.symm
  · rintro h rest hrest
    exact h ⟨rest, hrest.symm⟩

theorem longest_of_match? {t : AliasTable} {token rest : String} {a : Alias}
    (h : t.match? token = some (a, rest)) : t.Longest token a rest := by
  obtain ⟨before, b, after, hentries, hb, hbefore⟩ := List.findSome?_eq_some_iff.mp h
  obtain ⟨text, htext, hpair⟩ := Option.map_eq_some_iff.mp hb
  obtain ⟨rfl, rfl⟩ := Prod.mk.inj hpair
  have htoken : token = b.stem ++ String.ofList text := by
    apply String.toList_inj.mp
    simpa using Text.after?_eq_some_iff.mp htext
  have hstarts : b.Starts token := by simp [Alias.Starts, htoken]
  refine ⟨by simp [hentries], htoken, fun c hc hstart => ?_⟩
  rw [hentries] at hc
  rcases List.mem_append.mp hc with hc | hc
  · obtain ⟨tail, htail⟩ := hstart
    have hnone := hbefore c hc
    rw [Text.after?_eq_some_iff.mpr htail.symm] at hnone
    simp at hnone
  · rcases List.mem_cons.mp hc with rfl | hc
    · exact Nat.le_refl _
    · have hsorted := t.sorted
      rw [hentries] at hsorted
      exact length_le_of_starts hstarts hstart
        ((List.pairwise_cons.mp (List.pairwise_append.mp hsorted).2.1).1 c hc)

/-- A token matches the alias with the longest stem, wherever the alias stands in the table. -/
theorem match?_eq_some_iff {t : AliasTable} {token rest : String} {a : Alias} :
    t.match? token = some (a, rest) ↔ t.Longest token a rest := by
  constructor
  · exact longest_of_match?
  · intro h
    cases hm : t.match? token with
    | none => exact absurd h.starts (match?_eq_none_iff.mp hm a h.mem)
    | some found =>
      obtain ⟨rfl, rfl⟩ := (longest_of_match? hm).unique h
      rfl

end AliasTable

end ImportSurvey
