import ImportSurvey.Proofs.AliasPairs
import ImportSurvey.Proofs.CleanFolders
import ImportSurvey.Proofs.MappingTargets
import ImportSurvey.Proofs.Outcomes
import ImportSurvey.Proofs.RealPlaces
import ImportSurvey.Settings.Plan

namespace ImportSurvey

namespace Settings

variable {d : Disk} {s : Settings} {t : AliasTable} {p : Plan} {stem folder : String}

theorem mem_mappedAliases_iff : (stem, folder) ∈ mappedAliases d s ↔
    s.useMappings ∧ ∃ m, PathMappings.ofFolder? d s.base = some m ∧ (stem, folder) ∈ m.aliases := by
  unfold mappedAliases
  cases PathMappings.ofFolder? d s.base <;> simp

theorem normal_of_mapped (h : (stem, folder) ∈ mappedAliases d s) :
    stem ≠ "" ∧ Path.Normal folder := by
  obtain ⟨_, m, _, hmem⟩ := mem_mappedAliases_iff.mp h
  exact ⟨(PathMappings.mem_aliases_iff.mp hmem).1, PathMappings.normal_of_mem_aliases hmem⟩

/-- Path mappings give each stem one folder. -/
theorem lookup_mappedAliases :
    (mappedAliases d s).lookup stem = some folder ↔ (stem, folder) ∈ mappedAliases d s := by
  refine Catalog.lookup_eq_some_iff_mem fun name folder other h h' => ?_
  obtain ⟨_, m, hm, hmem⟩ := mem_mappedAliases_iff.mp h
  obtain ⟨_, m', hm', hmem'⟩ := mem_mappedAliases_iff.mp h'
  cases Option.some.inj (hm.symm.trans hm')
  obtain ⟨_, target, _, hget, hjoin⟩ := PathMappings.mem_aliases_iff.mp hmem
  obtain ⟨_, target', _, hget', hjoin'⟩ := PathMappings.mem_aliases_iff.mp hmem'
  obtain ⟨hstar, _⟩ := List.cons.inj (Option.some.inj (hget.symm.trans hget'))
  rw [(String.append_left_inj _).mp hstar, hjoin'] at hjoin
  exact (Option.some.inj hjoin).symm

/-- The folder that a plan has under a stem: cleaned, if the settings give it, and otherwise as path
mappings give it. -/
theorem folder?_aliasTable (h : aliasTable d s = some t) (stem : String) :
    t.folder? stem = if stem = "" then none
      else ((s.aliases.get? stem).map Alias.cleanFolder).or ((mappedAliases d s).lookup stem) := by
  have htable : t = (AliasTable.ofPairs s.aliases.entries).enterAll (mappedAliases d s) := by
    unfold aliasTable at h
    split at h
    next => exact (Option.some.inj h).symm
    next => simp at h
  have hclean : ((mappedAliases d s).lookup stem).map Alias.cleanFolder =
      (mappedAliases d s).lookup stem := by
    cases hlook : (mappedAliases d s).lookup stem with
    | none => rfl
    | some folder =>
      have hnormal := (normal_of_mapped (lookup_mappedAliases.mp hlook)).2
      exact congrArg some (Alias.cleanFolder_of_normal hnormal)
  have hempty : AliasTable.empty.folder? stem = none := rfl
  rw [htable, AliasTable.folder?_enterAll, AliasTable.ofPairs, AliasTable.folder?_enterAll, hempty,
    hclean, Option.none_or]
  split
  next => rfl
  next => rfl

/-- A stem that the settings or a path mapping give. -/
def HasStem (d : Disk) (s : Settings) (stem : String) : Prop :=
  stem ≠ "" ∧ stem ∈ s.aliases.keys ∨ stem ∈ (mappedAliases d s).map Prod.fst

/-- Of the stems that start the token the longest is that of the alias, `rest` follows it, and the
folder of the alias is the one that the settings give, if they name the stem. -/
structure Prefers (d : Disk) (s : Settings) (token : String) (a : Alias) (rest : String) :
    Prop where
  stem : HasStem d s a.stem
  token_eq : token = a.stem ++ rest
  longest : ∀ stem, HasStem d s stem → stem.toList <+: token.toList → stem.length ≤ a.stem.length
  given : ∀ text, s.aliases.get? a.stem = some text → a.folder = Alias.cleanFolder text
  mapped : s.aliases.get? a.stem = none → (a.stem, a.folder) ∈ mappedAliases d s

theorem ne_empty_of_hasStem (h : HasStem d s stem) : stem ≠ "" := by
  rcases h with ⟨hne, _⟩ | hmem
  · exact hne
  · obtain ⟨⟨_, folder⟩, hpair, rfl⟩ := List.mem_map.mp hmem
    exact (normal_of_mapped hpair).1

theorem hasStem_iff (h : aliasTable d s = some t) :
    HasStem d s stem ↔ ∃ a ∈ t.entries, a.stem = stem := by
  have hmapped : stem ∈ (mappedAliases d s).map Prod.fst ↔
      ∃ folder, (mappedAliases d s).lookup stem = some folder := by
    simp [lookup_mappedAliases]
  calc HasStem d s stem
      ↔ t.folder? stem ≠ none := by
        rw [folder?_aliasTable h stem]
        by_cases hne : stem = ""
        · simp only [hne, if_true, ne_eq, not_true_eq_false, iff_false]
          exact fun h => ne_empty_of_hasStem h rfl
        · rw [if_neg hne, HasStem, Catalog.mem_keys_iff, hmapped]
          cases s.aliases.get? stem <;> cases (mappedAliases d s).lookup stem <;> simp [hne]
    _ ↔ ∃ a ∈ t.entries, a.stem = stem := by
        rw [ne_eq, AliasTable.folder?_eq_none_iff]
        simp

/-- The longest alias of the table is the one that the settings prefer. -/
theorem longest_iff_prefers (h : aliasTable d s = some t) {token rest : String} {a : Alias} :
    t.Longest token a rest ↔ Prefers d s token a rest := by
  have hmem : a ∈ t.entries ↔ t.folder? a.stem = some a.folder :=
    AliasTable.folder?_eq_some_iff.symm
  have hfolder := folder?_aliasTable h a.stem
  constructor
  · intro hlongest
    have hstem := (hasStem_iff h).mpr ⟨a, hlongest.mem, rfl⟩
    rw [hmem.mp hlongest.mem, if_neg (ne_empty_of_hasStem hstem)] at hfolder
    refine ⟨hstem, hlongest.token_eq, ?_, ?_, ?_⟩
    · intro stem hs hstarts
      obtain ⟨b, hb, rfl⟩ := (hasStem_iff h).mp hs
      exact hlongest.longest b hb hstarts
    · intro text htext
      rw [htext] at hfolder
      exact Option.some.inj hfolder
    · intro hnone
      rw [hnone] at hfolder
      exact lookup_mappedAliases.mp hfolder.symm
  · intro hprefers
    rw [if_neg (ne_empty_of_hasStem hprefers.stem)] at hfolder
    refine ⟨hmem.mpr ?_, hprefers.token_eq, ?_⟩
    · cases hget : s.aliases.get? a.stem with
      | some text =>
        rw [hfolder, hget, hprefers.given text hget]
        rfl
      | none =>
        rw [hfolder, hget, lookup_mappedAliases.mpr (hprefers.mapped hget)]
        rfl
    · intro b hb hstarts
      exact hprefers.longest b.stem ((hasStem_iff h).mpr ⟨b, hb, rfl⟩) hstarts

theorem aliases_of_plan (h : s.plan d = .ok p) : p.aliases = aliasTable d s := by
  obtain ⟨patterns, _, rfl⟩ := map_eq_ok_iff.mp h
  rfl

/-- By the plan, a token has no alias if no stem starts it, and otherwise the alias that the
settings prefer: neither a shorter stem nor a path mapping of the same stem gets in its way. -/
theorem plan_prefers (henabled : s.aliasesEnabled) (hplan : s.plan d = .ok p) :
    ∃ t, p.aliases = some t ∧ ∀ token,
      (t.match? token = none ↔ ∀ stem, HasStem d s stem → ¬stem.toList <+: token.toList) ∧
      ∀ a rest, t.match? token = some (a, rest) ↔ Prefers d s token a rest := by
  obtain ⟨t, ht⟩ : ∃ t, aliasTable d s = some t := ⟨_, if_pos henabled⟩
  refine ⟨t, (aliases_of_plan hplan).trans ht, fun token => ⟨?_, fun a rest => ?_⟩⟩
  · rw [AliasTable.match?_eq_none_iff]
    constructor
    · intro h stem hstem
      obtain ⟨a, ha, rfl⟩ := (hasStem_iff ht).mp hstem
      exact h a ha
    · intro h a ha
      exact h a.stem ((hasStem_iff ht).mpr ⟨a, ha, rfl⟩)
  · rw [AliasTable.match?_eq_some_iff, longest_iff_prefers ht]

/-- An alias of the settings stands before a path mapping of the same stem, and a path mapping of a
longer stem before both. -/
theorem plan_prefers_mapped :
    let text := "\x7b\"compilerOptions\": \x7b\"paths\": \x7b" ++
      "\"@/*\": [\"src/*\"], \"@/ui/*\": [\"lib/*\"]\x7d\x7d\x7d"
    let d : Disk := ⟨.folder true [("tsconfig.json", .file true text.toUTF8.toList)], "/"⟩
    let s : Settings := { ofBase "/" with aliases := .ofList [("@/", "./app/")] }
    s.aliasesEnabled ∧ ∃ p t, s.plan d = .ok p ∧ p.aliases = some t ∧
      t.match? "@/x" = some (⟨"@/", "app"⟩, "x") ∧
      t.match? "@/ui/x" = some (⟨"@/ui/", "lib"⟩, "x") ∧ t.match? "x" = none := by
  intro text d s
  let mappings : PathMappings := ⟨".", .ofList [("@/*", ["src/*"]), ("@/ui/*", ["lib/*"])]⟩
  have hlook : d.look true (Place.join "/" "tsconfig.json") =
      .ok ⟨["tsconfig.json"], .file true text.toUTF8.toList⟩ := by
    have hplace : Place.join "/" "tsconfig.json" = "/tsconfig.json" := by
      simp [Place.join, Place.endsWith_slash_iff]
    rw [hplace]
    exact @Disk.look_of_below? d ["tsconfig.json"] _ rfl (by decide) (by decide) rfl (by simp)
  have hread : d.readText (Place.join "/" "tsconfig.json") = .ok text := by
    have htext : Text.Utf8.strict? text.toUTF8.toList = some text := by decide +kernel
    simp only [Disk.readText, Disk.readBytes, hlook, htext]
  have hmapped : mappedAliases d s = [("@/", "src"), ("@/ui/", "lib")] := by
    have hmappings : PathMappings.ofText? text = some mappings := by decide +kernel
    have hfolder : PathMappings.ofFolder? d "/" = some mappings := by
      simp [PathMappings.ofFolder?, PathMappings.fileNames, hread, hmappings, Except.toOption]
    have haliases : mappings.aliases = [("@/", "src"), ("@/ui/", "lib")] := by decide
    simp [mappedAliases, s, ofBase, hfolder, haliases]
  have hgiven : s.aliases.get? "@/" = some "./app/" ∧ s.aliases.get? "@/ui/" = none := by decide
  have hstems : ∀ stem, HasStem d s stem ↔ stem = "@/" ∨ stem = "@/ui/" := by
    have hkeys : s.aliases.keys = ["@/"] := by decide
    intro stem
    simp only [HasStem, hkeys, hmapped, List.map_cons, List.map_nil, List.mem_cons,
      List.not_mem_nil, or_false]
    refine ⟨fun h => h.elim (.inl ·.2) id, .inr⟩
  obtain ⟨p, hp⟩ : ∃ p, s.plan d = .ok p := ⟨_, rfl⟩
  obtain ⟨t, ht, hmatch⟩ := plan_prefers rfl hp
  refine ⟨rfl, p, t, hp, ht, ?_, ?_, ?_⟩
  · rw [(hmatch "@/x").2]
    refine ⟨(hstems _).mpr (.inl rfl), by decide, fun stem hs hstarts => ?_, ?_, ?_⟩
    · rcases (hstems stem).mp hs with rfl | rfl
      · exact Nat.le_refl _
      · exact absurd hstarts (by decide)
    · intro folder hfolder
      cases Option.some.inj (hgiven.1.symm.trans hfolder)
      decide
    · exact fun hnone => absurd (hgiven.1.symm.trans hnone) (by simp)
  · rw [(hmatch "@/ui/x").2]
    refine ⟨(hstems _).mpr (.inr rfl), by decide, fun stem hs _ => ?_, ?_, ?_⟩
    · rcases (hstems stem).mp hs with rfl | rfl
      · decide
      · exact Nat.le_refl _
    · exact fun folder hfolder => absurd (hgiven.2.symm.trans hfolder) (by simp)
    · exact fun _ => hmapped ▸ .tail _ (.head _)
  · rw [(hmatch "x").1]
    intro stem hs
    rcases (hstems stem).mp hs with rfl | rfl
    · decide
    · decide

end Settings

end ImportSurvey
