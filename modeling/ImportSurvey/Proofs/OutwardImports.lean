import ImportSurvey.Proofs.ImportViews
import ImportSurvey.Proofs.PathWithin
import ImportSurvey.Proofs.WalkthroughImports

namespace ImportSurvey.Report

/-- The import leads to a place in the tree that is neither the folder nor below it. -/
def LeadsOut (folder : String) (i : Import) : Prop :=
  i.isInternal ∧ ¬Path.within i.target folder

/-- The import leads to the folder itself, which is not the base folder. -/
def PointsAt (folder : String) (i : Import) : Prop :=
  i.isInternal ∧ i.target = folder ∧ folder ≠ Path.root

variable {folder : String} {i : Import}

theorem LeadsOut.not_pointsAt (h : LeadsOut folder i) : ¬PointsAt folder i := by
  rintro ⟨_, htarget, _⟩
  exact h.2 (by simp [Path.within, htarget])

/-- What counts is where the folder of the target lies, and that of the folder itself is outside. -/
theorem leavesFolder_iff (hne : folder ≠ "") :
    leavesFolder folder i ↔ LeadsOut folder i ∨ PointsAt folder i := by
  have hleaves : leavesFolder folder i ↔
      i.isInternal ∧ ¬Path.within (Path.parent i.target) folder := by simp [leavesFolder]
  rw [hleaves, LeadsOut, PointsAt, ← and_or_left]
  refine and_congr_right fun _ => ?_
  by_cases hroot : folder = Path.root
  · simp [hroot, Path.within]
  · have hwithin : Path.within i.target folder ↔ _ := Path.within_iff_parent hne hroot
    by_cases htarget : i.target = folder
    · simpa [htarget, hroot] using Path.not_within_parent hroot
    · simp [htarget, hwithin]

namespace Walkthrough

variable {s : Survey} {number : Nat}

/-- No import on the page leads to its folder or below it. -/
def Outward (s : Survey) (number : Nat) : Prop :=
  ∀ folder, folderOf? s number = some folder →
    ∀ g ∈ groupsOn s number, ∀ line ∈ g.2, ¬Path.within line.target folder

/-- No file of the folder has an import that leads to the folder. -/
def Unpointed (s : Survey) (folder : String) : Prop :=
  ∀ name ∈ s.tree.filesIn folder, ∀ record,
    s.records.get? (Path.inFolder folder name) = some record →
      ∀ i ∈ record.imports, ¬PointsAt folder i

theorem mem_outgoing_iff {name : String} {line : ImportLine} :
    line ∈ outgoing s folder name ↔
      ∃ record, s.records.get? (Path.inFolder folder name) = some record ∧
        ∃ i ∈ record.imports, leavesFolder folder i ∧ line = ⟨name, i.raw, i.target⟩ := by
  unfold outgoing
  cases s.records.get? (Path.inFolder folder name) with
  | none => simp
  | some record => simp [and_assoc, eq_comm (a := line)]

theorem exists_group_iff {line : ImportLine} : (∃ g ∈ groups s folder, line ∈ g.2) ↔
    ∃ name ∈ s.tree.filesIn folder, line ∈ outgoing s folder name := by
  constructor
  · rintro ⟨g, hg, hline⟩
    obtain ⟨hname, hlines, _⟩ := mem_groups_iff.mp hg
    exact ⟨g.1, hname, hlines ▸ hline⟩
  · rintro ⟨name, hname, hline⟩
    exact ⟨(name, _), mem_groups_iff.mpr ⟨hname, rfl, List.ne_nil_of_mem hline⟩, hline⟩

theorem outward_iff (h : folderOf? s number = some folder) (hne : folder ≠ "") :
    Outward s number ↔ Unpointed s folder := by
  have hgroups := groupsOn_of_page h
  constructor
  · intro hout name hname record hget i hi hpoints
    have hline : ⟨name, i.raw, i.target⟩ ∈ outgoing s folder name :=
      mem_outgoing_iff.mpr ⟨record, hget, i, hi, (leavesFolder_iff hne).mpr (.inr hpoints), rfl⟩
    obtain ⟨g, hg, hline⟩ := exists_group_iff.mpr ⟨name, hname, hline⟩
    exact hout folder h g (hgroups ▸ hg) _ hline (by simp [Path.within, hpoints.2.1])
  · intro hnone folder' h' g hg line hline
    cases Option.some.inj (h.symm.trans h')
    rw [hgroups] at hg
    obtain ⟨name, hname, hline⟩ := exists_group_iff.mp ⟨g, hg, hline⟩
    obtain ⟨record, hget, i, hi, hleaves, rfl⟩ := mem_outgoing_iff.mp hline
    rcases (leavesFolder_iff hne).mp hleaves with hout | hpoints
    · exact hout.2
    · exact absurd hpoints (hnone name hname record hget i hi)

/-- An import counts as leading out of a folder if it does or if it leads to the folder itself, so
a page lists nothing in its own folder exactly if no file there imports the folder. -/
theorem leaves_outward_iff (hne : folder ≠ "") :
    (∀ i, leavesFolder folder i ↔ LeadsOut folder i ∨ PointsAt folder i) ∧
      ∀ s number, folderOf? s number = some folder → (Outward s number ↔ Unpointed s folder) :=
  ⟨fun _ => leavesFolder_iff hne, fun _ _ h => outward_iff h hne⟩

/-- A file imports its own folder, and no file stands for the folder: the page of the folder lists
what leads nowhere else. -/
theorem not_outward_of_own_folder : ∃ pattern, ImportPattern.ofText "(.+)" = .ok pattern ∧
    let record := FileImports.ofContent ⟨.ofList ["a/x.ts"], ["ts"], none⟩ [pattern.groupTexts]
      "a/x.ts" "."
    let s : Survey := ⟨"/base", .ofFiles ["a/x.ts"], ["a/x.ts"], .ofList [("a/x.ts", record)], []⟩
    folderOf? s 2 = some "a" ∧ groupsOn s 2 = [("x.ts", [⟨"x.ts", ".", "a"⟩])] ∧
      ¬LeadsOut "a" ⟨".", "a", .unresolved⟩ ∧ leavesFolder "a" ⟨".", "a", .unresolved⟩ ∧
      ¬Outward s 2 ∧ ¬Unpointed s "a" := by
  obtain ⟨pattern, hpattern, htokens⟩ : ∃ pattern, ImportPattern.ofText "(.+)" = .ok pattern ∧
      extractTokens [pattern.groupTexts] "." = ["."] := by
    have htexts : (ImportPattern.ofText "(.+)").toOption.map (·.groupTexts ".") =
        some [some "."] := by decide +kernel
    exact FileImports.exists_pattern htexts (by decide)
  refine ⟨pattern, hpattern, ?_⟩
  have hself : Resolver.resolve? ⟨.ofList ["a/x.ts"], ["ts"], none⟩ "." "a" =
      some ⟨"a", .unresolved⟩ :=
    Resolver.resolve?_of_no_file (Token.isRelative_pathText.mp (by decide)) (by decide)
      (by simp [Resolver.candidates, Path.root])
  have hparent : Path.parent "a/x.ts" = "a" := by decide
  have hrecord : FileImports.ofContent ⟨.ofList ["a/x.ts"], ["ts"], none⟩ [pattern.groupTexts]
      "a/x.ts" "." = .ofImports [⟨".", "a", .unresolved⟩] := by
    rw [FileImports.ofContent, htokens, hparent]
    simp only [List.filterMap_cons, List.filterMap_nil, FileImports.importOf?, hself,
      Option.map_some]
  rw [hrecord]
  intro record s
  have hpage : folderOf? s 2 = some "a" := by decide
  have hlines : groupsOn s 2 = [("x.ts", [⟨"x.ts", ".", "a"⟩])] := by decide
  have hin : ¬Outward s 2 := fun h =>
    h "a" hpage _ (hlines ▸ List.mem_singleton_self _) ⟨"x.ts", ".", "a"⟩ (by simp) (by decide)
  obtain ⟨hleaves, houtward⟩ := leaves_outward_iff (show "a" ≠ "" by decide)
  have hpoints : PointsAt "a" ⟨".", "a", .unresolved⟩ := ⟨rfl, rfl, by decide⟩
  exact ⟨hpage, hlines, fun h => h.not_pointsAt hpoints, (hleaves _).mpr (.inr hpoints), hin,
    fun h => hin ((houtward s 2 hpage).mpr h)⟩

end Walkthrough

end ImportSurvey.Report
