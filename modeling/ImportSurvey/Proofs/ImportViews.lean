import ImportSurvey.Proofs.CleanFolders
import ImportSurvey.Proofs.Outcomes
import ImportSurvey.Proofs.SurveyCoherence

namespace ImportSurvey

namespace Resolver

theorem root_not_mem_candidates {r : Resolver} {path : String} (h : Path.Normal path) :
    Path.root ∉ r.candidates path := by
  have hpath := Path.toList_ne_nil_of_normal h
  have htext : ∀ text : String, text = Path.root → text.toList = ['.'] := by
    rintro _ rfl
    rfl
  unfold candidates
  split
  next =>
    simp only [List.mem_map, not_exists, not_and]
    exact fun e _ he => by simpa using htext _ he
  next hne =>
    simp only [List.cons_append, List.mem_cons, List.mem_append, List.mem_map, not_or, not_exists,
      not_and]
    refine ⟨Ne.symm hne, fun e _ he => ?_, fun e _ he => ?_⟩
    · simpa [List.append_eq_cons_iff, hpath] using htext _ he
    · simpa [List.append_eq_cons_iff, hpath] using htext _ he

/-- A path that means a file is not told to mean nothing when it is reached in another way. -/
theorem target_locate_ne {r : Resolver} {path other : String} (h : Path.Normal path)
    (hfile : (r.locate path).kind = .resolved) (hnone : (r.locate other).kind = .unresolved) :
    (r.locate path).target ≠ (r.locate other).target := by
  have hpath := r.meaning_locate path
  have hother := r.meaning_locate other
  generalize r.locate path = found at hpath hfile ⊢
  generalize r.locate other = missed at hother hnone ⊢
  cases hpath with
  | nothing _ => simp at hfile
  | @file before after file hsplit hmem _ =>
    cases hother with
    | file _ _ _ => simp at hnone
    | nothing hno =>
      rintro rfl
      by_cases hroot : file = Path.root
      · subst hroot
        exact root_not_mem_candidates h (by rw [hsplit]; simp)
      · exact hno file (by simp [candidates, hroot]) hmem

end Resolver

namespace FileImports

variable {r : Resolver} {matchers : List Matcher} {folder file content : String}

/-- The lists that belong to a sequence of tokens in a file of `folder`. -/
def ofTokens (r : Resolver) (folder : String) (tokens : List String) : FileImports :=
  ofImports (tokens.filterMap (importOf? r folder))

/-- What the lists of a file of `folder` tell about its tokens. -/
structure Accounts (r : Resolver) (folder : String) (tokens : List String) (lists : FileImports) :
    Prop where
  /-- Each token that leads somewhere has one import, in the order of the tokens. -/
  raws : lists.imports.map (·.raw) = tokens.filter fun token => (r.resolve? token folder).isSome
  found : ∀ i ∈ lists.imports, r.resolve? i.raw folder = some ⟨i.target, i.kind⟩
  raws_nodup : (lists.imports.map (·.raw)).Nodup
  all_eq : lists.all = (lists.imports.map (·.target)).eraseDups
  resolved_eq : lists.resolved =
    ((lists.imports.filter (·.kind == .resolved)).map (·.target)).eraseDups
  resolved_subset : lists.resolved ⊆ lists.all
  /-- Whether a place in the tree is a file does not depend on the token that leads there. -/
  target_ne : ∀ i ∈ lists.imports, ∀ j ∈ lists.imports,
    i.kind = .resolved → j.kind = .unresolved → i.target ≠ j.target
  /-- A token that leads above the base folder leaves no trace. -/
  discarded : ∀ token, r.resolve? token folder = none →
    token ∉ lists.imports.map (·.raw) ∧ lists = ofTokens r folder (tokens.filter (· ≠ token))

theorem map_raw_filterMap (r : Resolver) (folder : String) (tokens : List String) :
    (tokens.filterMap (importOf? r folder)).map (·.raw) =
      tokens.filter fun token => (r.resolve? token folder).isSome := by
  induction tokens with
  | nil => rfl
  | cons token rest ih =>
    cases hfound : r.resolve? token folder with
    | none => simpa [importOf?, hfound] using ih
    | some found => simpa [importOf?, hfound] using ih

/-- What a pattern text finds, seen without running the extraction. -/
theorem exists_pattern {text content : String} {texts : List (Option String)} {tokens : List String}
    (htexts : (ImportPattern.ofText text).toOption.map (·.groupTexts content) = some texts)
    (htokens : ((texts.filterMap (Option.map trimmed)).filter (!·.isEmpty)).eraseDups = tokens) :
    ∃ pattern, ImportPattern.ofText text = .ok pattern ∧
      extractTokens [pattern.groupTexts] content = tokens := by
  obtain ⟨pattern, hpattern, rfl⟩ := exists_ok_of_toOption htexts
  refine ⟨pattern, hpattern, ?_⟩
  rw [extractTokens_eq_eraseDups, List.flatMap_singleton, tokensOf, htokens]

theorem ofTokens_filter_ne {token : String} (h : r.resolve? token folder = none)
    (tokens : List String) :
    ofTokens r folder (tokens.filter (· ≠ token)) = ofTokens r folder tokens := by
  rw [ofTokens, ofTokens, List.filterMap_filter]
  refine congrArg ofImports (List.filterMap_congr fun other _ => ?_)
  by_cases heq : other = token
  · simp [heq, importOf?, h]
  · simp [heq]

theorem target_ne_ofContent {i j : Import}
    (hi : i ∈ (ofContent r matchers file content).imports)
    (hj : j ∈ (ofContent r matchers file content).imports) (hfile : i.kind = .resolved)
    (hnone : j.kind = .unresolved) : i.target ≠ j.target := by
  obtain ⟨found, hfound, htarget, hkind⟩ := mem_imports_ofContent hi
  obtain ⟨missed, hmissed, htarget', hkind'⟩ := mem_imports_ofContent hj
  rw [hkind] at hfile
  rw [hkind'] at hnone
  rw [htarget, htarget']
  obtain ⟨path, hpath, rfl⟩ :=
    Resolver.exists_locate hfound (by simp [Resolution.isInternal, hfile])
  obtain ⟨other, _, rfl⟩ :=
    Resolver.exists_locate hmissed (by simp [Resolution.isInternal, hnone])
  exact Resolver.target_locate_ne hpath hfile hnone

/-- The lists of a file account for its tokens, whatever the file, the content, the patterns and
the resolver are. -/
theorem accounts_ofContent (r : Resolver) (matchers : List Matcher) (file content : String) :
    Accounts r (Path.parent file) (extractTokens matchers content)
      (ofContent r matchers file content) where
  raws := map_raw_filterMap r (Path.parent file) _
  found i hi := by
    obtain ⟨found, hfound, htarget, hkind⟩ := mem_imports_ofContent hi
    rw [hfound, htarget, hkind]
  raws_nodup := by
    rw [ofContent, ofImports, map_raw_filterMap]
    exact (extractTokens_nodup matchers content).filter _
  all_eq := firstOccurrences_eq_eraseDups _
  resolved_eq := firstOccurrences_eq_eraseDups _
  resolved_subset target htarget := by
    obtain ⟨i, hi, _, rfl⟩ := mem_resolved_ofImports.mp htarget
    exact mem_firstOccurrences.mpr (List.mem_map_of_mem hi)
  target_ne i hi j hj := target_ne_ofContent hi hj
  discarded token h := by
    have hlists := ofTokens_filter_ne h (extractTokens matchers content)
    refine ⟨?_, hlists.symm⟩
    rw [ofContent, ofImports, map_raw_filterMap, List.mem_filter]
    simp [h]

end FileImports

end ImportSurvey
