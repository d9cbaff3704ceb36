import ImportSurvey.Proofs.AliasStems
import ImportSurvey.Proofs.CatalogLookup

namespace ImportSurvey

namespace AliasTable

variable {t : AliasTable} {stem folder : String} {a : Alias}

theorem entries_enter (t : AliasTable) (stem folder : String) :
    (t.enter stem folder).entries = if stem = "" ∨ stem ∈ t.entries.map Alias.stem then t.entries
      else place ⟨stem, Alias.cleanFolder folder⟩ t.entries := by
  have hcheck : (stem.isEmpty || t.entries.any (·.stem == stem)) = true ↔
      stem = "" ∨ stem ∈ t.entries.map Alias.stem := by
    simp
  simp only [enter, apply_dite entries, dite_eq_ite, hcheck]

theorem mem_enter : a ∈ (t.enter stem folder).entries ↔ a ∈ t.entries ∨
    stem ≠ "" ∧ (∀ b ∈ t.entries, b.stem ≠ stem) ∧ a = ⟨stem, Alias.cleanFolder folder⟩ := by
  have hnew : stem ∉ t.entries.map Alias.stem ↔ ∀ b ∈ t.entries, b.stem ≠ stem := by
    simp
  rw [entries_enter, ← hnew]
  split
  next h => exact ⟨.inl, fun hmem => hmem.resolve_right fun ⟨hne, hstem, _⟩ => h.elim hne hstem⟩
  next h =>
    obtain ⟨hne, hstem⟩ := not_or.mp h
    simp [(place_perm _ _).mem_iff, hne, hstem, or_comm]

/-- The folder under a stem. -/
def folder? (t : AliasTable) (stem : String) : Option String :=
  (t.entries.find? (·.stem == stem)).map (·.folder)

theorem folder?_eq_some_iff : t.folder? stem = some folder ↔ ⟨stem, folder⟩ ∈ t.entries := by
  rw [folder?, Option.map_eq_some_iff]
  constructor
  · rintro ⟨a, ha, rfl⟩
    have hstem : a.stem = stem := by simpa using List.find?_some ha
    exact hstem ▸ List.mem_of_find?_eq_some ha
  · intro hmem
    have hsome : (t.entries.find? (·.stem == stem)).isSome :=
      List.find?_isSome.mpr ⟨_, hmem, by simp⟩
    obtain ⟨a, ha⟩ := Option.isSome_iff_exists.mp hsome
    have hstem : a.stem = stem := by simpa using List.find?_some ha
    have heq := eq_of_stem_eq (List.mem_of_find?_eq_some ha) hmem hstem
    exact ⟨a, ha, congrArg Alias.folder heq⟩

theorem folder?_eq_none_iff : t.folder? stem = none ↔ ∀ a ∈ t.entries, a.stem ≠ stem := by
  simp [folder?]

theorem folder?_enter (t : AliasTable) (name text stem : String) :
    (t.enter name text).folder? stem = (t.folder? stem).or
      (if name ≠ "" ∧ stem = name then some (Alias.cleanFolder text) else none) := by
  ext folder
  rw [folder?_eq_some_iff, mem_enter, Option.or_eq_some_iff, folder?_eq_some_iff,
    folder?_eq_none_iff]
  refine or_congr_right ?_
  constructor
  · rintro ⟨hne, hnew, heq⟩
    obtain ⟨rfl, rfl⟩ := Alias.mk.inj heq
    exact ⟨hnew, by simp [hne]⟩
  · rintro ⟨hnew, hsome⟩
    obtain ⟨⟨hne, rfl⟩, rfl⟩ := by simpa using hsome
    exact ⟨hne, hnew, rfl⟩

/-- The table keeps what it had, and of several folders for one stem it takes the first. -/
theorem folder?_enterAll (t : AliasTable) (pairs : List (String × String)) (stem : String) :
    (t.enterAll pairs).folder? stem = (t.folder? stem).or
      (if stem = "" then none else (pairs.lookup stem).map Alias.cleanFolder) := by
  induction pairs generalizing t with
  | nil => simp [enterAll]
  | cons pair rest ih =>
    have hstep : t.enterAll (pair :: rest) = (t.enter pair.1 pair.2).enterAll rest := rfl
    rw [hstep, ih, folder?_enter, Option.or_assoc, Catalog.lookup_cons]
    by_cases hempty : stem = ""
    · subst hempty
      have hno : ¬(pair.1 ≠ "" ∧ "" = pair.1) := fun h => h.1 h.2.symm
      rw [if_neg hno, if_pos rfl, if_pos rfl, Option.none_or]
    · by_cases heq : stem = pair.1
      · subst heq
        simp [hempty]
      · simp [hempty, heq]

theorem mem_ofPairs_iff {pairs : List (String × String)} :
    a ∈ (ofPairs pairs).entries ↔ a.stem ≠ "" ∧
      ∃ text, pairs.lookup a.stem = some text ∧ a.folder = Alias.cleanFolder text := by
  have hmem : a ∈ (ofPairs pairs).entries ↔ (ofPairs pairs).folder? a.stem = some a.folder :=
    folder?_eq_some_iff.symm
  have hempty : empty.folder? a.stem = none := rfl
  rw [hmem, ofPairs, folder?_enterAll, hempty, Option.none_or]
  by_cases hne : a.stem = ""
  · simp [hne]
  · simp [hne, eq_comm]

/-- The alias that the pairs have for the token: its stem is the longest that starts the token, and
its folder is the cleaned folder of the first pair with this stem. -/
structure FirstLongest (pairs : List (String × String)) (token : String) (a : Alias)
    (rest : String) : Prop where
  stem_ne : a.stem ≠ ""
  token_eq : token = a.stem ++ rest
  longest : ∀ pair ∈ pairs, pair.1.toList <+: token.toList → pair.1.length ≤ a.stem.length
  first : ∃ before text after, pairs = before ++ (a.stem, text) :: after ∧
    (∀ pair ∈ before, pair.1 ≠ a.stem) ∧ a.folder = Alias.cleanFolder text

variable {pairs : List (String × String)} {token rest : String}

theorem exists_mem_ofPairs_iff :
    (∃ a ∈ (ofPairs pairs).entries, a.stem = stem) ↔ stem ≠ "" ∧ ∃ pair ∈ pairs, pair.1 = stem := by
  constructor
  · rintro ⟨a, ha, rfl⟩
    obtain ⟨hne, text, hlook, _⟩ := mem_ofPairs_iff.mp ha
    obtain ⟨before, after, rfl, _⟩ := List.lookup_eq_some_iff.mp hlook
    exact ⟨hne, (a.stem, text), by simp, rfl⟩
  · rintro ⟨hne, pair, hpair, rfl⟩
    cases hlook : pairs.lookup pair.1 with
    | none => simpa using List.lookup_eq_none_iff.mp hlook pair hpair
    | some text => exact ⟨⟨pair.1, _⟩, mem_ofPairs_iff.mpr ⟨hne, text, hlook, rfl⟩, rfl⟩

theorem longest_ofPairs_iff :
    (ofPairs pairs).Longest token a rest ↔ FirstLongest pairs token a rest := by
  constructor
  · rintro ⟨hmem, htoken, hlongest⟩
    obtain ⟨hne, text, hlook, hfolder⟩ := mem_ofPairs_iff.mp hmem
    obtain ⟨before, after, hpairs, hbefore⟩ := List.lookup_eq_some_iff.mp hlook
    refine ⟨hne, htoken, fun pair hpair hstarts => ?_,
      before, text, after, hpairs, fun pair hp => ?_, hfolder⟩
    · by_cases hempty : pair.1 = ""
      · simp [hempty]
      · obtain ⟨b, hb, hstem⟩ := exists_mem_ofPairs_iff.mpr ⟨hempty, pair, hpair, rfl⟩
        rw [← hstem] at hstarts ⊢
        exact hlongest b hb hstarts
    · exact (bne_iff_ne.mp (hbefore pair hp)).symm
  · rintro ⟨hne, htoken, hlongest, before, text, after, hpairs, hbefore, hfolder⟩
    have hlook : pairs.lookup a.stem = some text := List.lookup_eq_some_iff.mpr
      ⟨before, after, hpairs, fun pair hp => bne_iff_ne.mpr (hbefore pair hp).symm⟩
    refine ⟨mem_ofPairs_iff.mpr ⟨hne, text, hlook, hfolder⟩, htoken, fun b hb hstarts => ?_⟩
    obtain ⟨_, pair, hpair, hstem⟩ := exists_mem_ofPairs_iff.mp ⟨b, hb, rfl⟩
    rw [Alias.Starts, ← hstem] at hstarts
    exact hstem ▸ hlongest pair hpair hstarts

theorem lookup_eq_filter (pairs : List (String × String)) (stem : String) :
    pairs.lookup stem = ((pairs.filter (·.1 == stem)).map Prod.snd).head? := by
  induction pairs with
  | nil => rfl
  | cons pair rest ih =>
    rw [Catalog.lookup_cons, ih]
    by_cases h : stem = pair.1
    · simp [h]
    · simp [h, Ne.symm h]

/-- What a token matches does not depend on the order of the aliases in the table. -/
theorem match?_congr {u : AliasTable} (h : ∀ a, a ∈ t.entries ↔ a ∈ u.entries) (token : String) :
    t.match? token = u.match? token := by
  ext ⟨a, rest⟩
  rw [match?_eq_some_iff, match?_eq_some_iff]
  constructor
  · rintro ⟨hmem, htoken, hlongest⟩
    exact ⟨(h a).mp hmem, htoken, fun b hb => hlongest b ((h b).mpr hb)⟩
  · rintro ⟨hmem, htoken, hlongest⟩
    exact ⟨(h a).mpr hmem, htoken, fun b hb => hlongest b ((h b).mp hb)⟩

/-- A token matches the alias that the pairs have for it, and none if no stem starts it. Pairs with
different stems may stand in any order. -/
theorem match?_ofPairs (pairs : List (String × String)) (token : String) :
    ((ofPairs pairs).match? token = none ↔
        ∀ pair ∈ pairs, pair.1 ≠ "" → ¬pair.1.toList <+: token.toList) ∧
      (∀ a rest, (ofPairs pairs).match? token = some (a, rest) ↔
        FirstLongest pairs token a rest) ∧
      ∀ others : List (String × String),
        (∀ stem, others.filter (·.1 == stem) = pairs.filter (·.1 == stem)) →
          (ofPairs others).match? token = (ofPairs pairs).match? token := by
  refine ⟨?_, fun a rest => match?_eq_some_iff.trans longest_ofPairs_iff, fun others h => ?_⟩
  · rw [match?_eq_none_iff]
    constructor
    · intro h pair hpair hne hstarts
      obtain ⟨a, ha, hstem⟩ := exists_mem_ofPairs_iff.mpr ⟨hne, pair, hpair, rfl⟩
      exact h a ha (by rwa [Alias.Starts, hstem])
    · intro h a ha hstarts
      obtain ⟨hne, pair, hpair, hstem⟩ := exists_mem_ofPairs_iff.mp ⟨a, ha, rfl⟩
      exact h pair hpair (hstem ▸ hne) (by rwa [hstem])
  · refine match?_congr (fun a => ?_) token
    simp only [mem_ofPairs_iff, lookup_eq_filter, h]

/-- Nested stems with characters of several bytes, one of them given twice, and an empty stem: the
first folder of the longest stem is taken, also where pairs of different stems change places. -/
theorem match?_ofPairs_nested :
    let pairs := [("@", "a"), ("@é", "./b/"), ("", "c"), ("@é", "d"), ("@éé/", "e")]
    let others := [("@é", "./b/"), ("@éé/", "e"), ("@", "a"), ("@é", "d"), ("", "c")]
    (∀ stem, others.filter (·.1 == stem) = pairs.filter (·.1 == stem)) ∧
      (ofPairs pairs).match? "@éx" = some (⟨"@é", "b"⟩, "x") ∧
      (ofPairs others).match? "@éx" = some (⟨"@é", "b"⟩, "x") ∧
      (ofPairs pairs).match? "é" = none := by
  intro pairs others
  have horder : ∀ stem, others.filter (·.1 == stem) = pairs.filter (·.1 == stem) := by
    intro stem
    by_cases h : stem ∈ pairs.map Prod.fst
    · revert stem
      decide
    · have hout : ∀ pair ∈ pairs, ¬(pair.1 == stem) = true := fun pair hp he =>
        h (beq_iff_eq.mp he ▸ List.mem_map_of_mem hp)
      have hsame : ∀ pair ∈ others, pair ∈ pairs := by decide
      rw [List.filter_eq_nil_iff.mpr hout,
        List.filter_eq_nil_iff.mpr fun pair hp => hout pair (hsame pair hp)]
  obtain ⟨_, hsome, hsort⟩ := match?_ofPairs pairs "@éx"
  have hmatch : (ofPairs pairs).match? "@éx" = some (⟨"@é", "b"⟩, "x") := (hsome _ _).mpr
    ⟨by decide, by decide, by decide, [("@", "a")], "./b/", _, rfl, by decide, by decide⟩
  exact ⟨horder, hmatch, (hsort others horder).trans hmatch,
    (match?_ofPairs pairs "é").1.mpr (by decide)⟩

end AliasTable

end ImportSurvey
