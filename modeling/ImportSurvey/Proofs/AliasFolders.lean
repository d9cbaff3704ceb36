import ImportSurvey.Proofs.AliasPairs
import ImportSurvey.Proofs.CleanFolders
import ImportSurvey.Proofs.MappingTargets

namespace ImportSurvey

namespace AliasTable

variable {t : AliasTable} {pairs : List (String × String)} {a : Alias}

/-- What entering pairs adds to a table comes from the pairs, with a cleaned folder. -/
theorem mem_of_mem_enterAll (h : a ∈ (t.enterAll pairs).entries) :
    a ∈ t.entries ∨ ∃ text, (a.stem, text) ∈ pairs ∧ a.folder = Alias.cleanFolder text := by
  have hfolder : (t.enterAll pairs).folder? a.stem = some a.folder := folder?_eq_some_iff.mpr h
  rw [folder?_enterAll, Option.or_eq_some_iff] at hfolder
  rcases hfolder with hold | ⟨_, hnew⟩
  · exact .inl (folder?_eq_some_iff.mp hold)
  · split at hnew
    next => simp at hnew
    next =>
      obtain ⟨text, hlook, hclean⟩ := Option.map_eq_some_iff.mp hnew
      obtain ⟨before, after, hpairs, _⟩ := List.lookup_eq_some_iff.mp hlook
      exact .inr ⟨text, by simp [hpairs], hclean.symm⟩

end AliasTable

namespace PathMappings

/-- The aliases of path mappings enter a table with the folders that they have. -/
theorem mem_of_mem_enterAll_aliases {m : PathMappings} {t : AliasTable} {a : Alias}
    (h : a ∈ (t.enterAll m.aliases).entries) :
    a ∈ t.entries ∨ (a.stem, a.folder) ∈ m.aliases := by
  rcases AliasTable.mem_of_mem_enterAll h with hold | ⟨text, hmem, hclean⟩
  · exact .inl hold
  · have hkept := Alias.cleanFolder_of_normal (normal_of_mem_aliases hmem)
    rw [hclean, hkept]
    exact .inr hmem

end PathMappings

namespace Alias

/-- A cleaned folder leads wherever the text leads. Cleaning changes exactly the texts that are not
clean, so it does nothing a second time and nothing to a path of normal form, and the aliases of path
mappings enter a table with the folders that they have. -/
theorem cleanFolder_keeps :
    (∀ text rest, Path.join? (cleanFolder text) rest = Path.join? text rest) ∧
      (∀ text, cleanFolder (cleanFolder text) = cleanFolder text) ∧
      (∀ text, cleanFolder text = text ↔ Clean text) ∧
      (∀ path, Path.Normal path → cleanFolder path = path) ∧
      ∀ (m : PathMappings) (t : AliasTable), ∀ a ∈ (t.enterAll m.aliases).entries,
        a ∈ t.entries ∨ (a.stem, a.folder) ∈ m.aliases := by
  refine ⟨fun text rest => ?_, fun text => ?_, fun text => ⟨fun heq => ?_, cleanFolder_of_clean⟩,
    fun path => cleanFolder_of_normal, fun m t a => PathMappings.mem_of_mem_enterAll_aliases⟩
  · exact Path.join?_congr (moves_cleanFolder text) rfl
  · exact cleanFolder_of_clean (clean_cleanFolder text)
  · have hclean := clean_cleanFolder text
    rwa [heq] at hclean

/-- A doubled slash behind a dot is cut in two, one that is left in front stays, and of dots and
slashes alone the base folder is left. -/
theorem cleanFolder_keeps_mixed :
    let m : PathMappings := ⟨"app", .ofList [("@/*", [".././src//*"])]⟩
    cleanFolder ".//x/./y//" = "/x/./y" ∧ cleanFolder "/x/./y" = "/x/./y" ∧
      Path.join? ".//x/./y//" "../z" = some "x/z" ∧ cleanFolder "././/" = "." ∧
      Path.Normal "src" ∧ cleanFolder "src" = "src" ∧
      ⟨"@/", "src"⟩ ∈ (AliasTable.empty.enterAll m.aliases).entries ∧
      ("@/", "src") ∈ m.aliases := by
  intro m
  obtain ⟨hjoin, hagain, _, hnormal, hmapped⟩ := cleanFolder_keeps
  have hclean : cleanFolder ".//x/./y//" = "/x/./y" := by decide
  have hsecond : cleanFolder "/x/./y" = "/x/./y" := hclean ▸ hagain ".//x/./y//"
  have hleads : Path.join? ".//x/./y//" "../z" = some "x/z" := by
    rw [← hjoin, hclean]
    decide
  have hpath : Path.Normal "src" := by decide
  have hentry : (⟨"@/", "src"⟩ : Alias) ∈ (AliasTable.empty.enterAll m.aliases).entries := by decide
  have hnew := (hmapped m .empty ⟨"@/", "src"⟩ hentry).resolve_left (by decide)
  exact ⟨hclean, hsecond, hleads, by decide, hpath, hnormal "src" hpath, hentry, hnew⟩

end Alias

end ImportSurvey
