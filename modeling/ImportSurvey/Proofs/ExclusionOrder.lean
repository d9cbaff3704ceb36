import ImportSurvey.Command.Run
import ImportSurvey.Proofs.SurveyExclusion

namespace ImportSurvey

namespace Survey

variable {s : Survey} {first second : List String}

theorem outside_append (first second : List String) (path : String) :
    outside (first ++ second) path = (outside first path && outside second path) := by
  simp [outside, exclusions_append, Bool.not_or]

/-- Which texts are excluded counts, and not in which order and how often. -/
theorem outside_congr (h : ∀ text, text ∈ first ↔ text ∈ second) (path : String) :
    outside first path = outside second path := by
  have hmem : ∀ e, e ∈ exclusions first ↔ e ∈ exclusions second := fun e => by
    simp only [mem_exclusions_iff, h]
  rw [Bool.eq_iff_iff, outside_iff, outside_iff]
  exact forall_congr' fun e => by rw [hmem]

theorem without_without (s : Survey) (first second : List String) :
    (s.without first).without second = s.without (first ++ second) := by
  have hboth : outside (first ++ second) = fun path => outside first path && outside second path :=
    funext fun path => outside_append first second path
  rw [without_eq_only, without_eq_only, without_eq_only, only_only, hboth]

theorem without_congr (h : ∀ text, text ∈ first ↔ text ∈ second) :
    s.without first = s.without second :=
  only_eq_only_iff.mpr fun path _ => outside_congr h path

/-- Leaving folders out group by group is leaving all of them out at once. -/
theorem foldl_without (s : Survey) (groups : List (List String)) :
    groups.foldl without s = s.without groups.flatten := by
  induction groups generalizing s with
  | nil => exact s.without_nil.symm
  | cons group rest ih => rw [List.foldl_cons, ih, without_without, List.flatten_cons]

theorem get?_records_without {excluded : List String} {file : String} {record : FileImports} :
    (s.without excluded).records.get? file = some record ↔
      s.records.get? file = some record ∧ ∀ e ∈ exclusions excluded, ¬Path.within file e := by
  rw [records_without, Catalog.get?_filterKeys, ← outside_iff]
  split
  next h => exact (and_iff_left h).symm
  next h => exact iff_of_false (by simp) fun hrecord => h hrecord.2

/-- Leaving folders out composes: two steps are one, the folders named in all steps count and nothing
else does, and the records that are left stay as they are. So it makes no difference whether the
folders that settings name or the crowded ones are left out first. -/
theorem without_composes (s : Survey) :
    (∀ first second, (s.without first).without second = s.without (first ++ second)) ∧
      (∀ excluded, (s.without excluded).without excluded = s.without excluded) ∧
      (∀ steps steps' : List (List String),
        (∀ text, text ∈ steps.flatten ↔ text ∈ steps'.flatten) →
          steps.foldl without s = steps'.foldl without s) ∧
      s.without [] = s ∧
      (∀ excluded file record, (s.without excluded).records.get? file = some record ↔
        s.records.get? file = some record ∧ ∀ e ∈ exclusions excluded, ¬Path.within file e) ∧
      ∀ settings : Settings,
        let crowded := if settings.excludeCrowded then
          (s.tree.crowded settings.crowdedFrom).map (·.path) else []
        s.without (settings.exclusions s) = (s.without settings.exclude).without crowded ∧
          s.without (settings.exclusions s) = (s.without crowded).without settings.exclude := by
  refine ⟨s.without_without, fun excluded => ?_, fun steps steps' h => ?_, s.without_nil,
    fun excluded file record => get?_records_without, fun settings => ?_⟩
  · rw [without_without]
    exact without_congr fun text => by rw [List.mem_append, or_self]
  · rw [foldl_without, foldl_without]
    exact without_congr h
  · simp only [Settings.exclusions, without_without]
    exact ⟨trivial, without_congr fun text => by rw [List.mem_append, List.mem_append, or_comm]⟩

/-- Two steps, and three that name the same folders in another order and repeatedly. A dot with a slash
says nothing, and a folder whose name only begins in the same way stays. -/
theorem without_composes_vendor :
    let s : Survey := ⟨"/base", .ofFiles ["a/x.ts", "vendor/y.ts", "vendored/z.ts"],
      ["a/x.ts", "vendor/y.ts", "vendored/z.ts"],
      .ofList [("a/x.ts", ⟨["b"], [], []⟩), ("vendor/y.ts", .empty), ("vendored/z.ts", .empty)], []⟩
    (∀ text, text ∈ [["./vendor/"], ["./", "a"]].flatten ↔
        text ∈ [["a", "./vendor/", "a"], [], ["./", "./vendor/"]].flatten) ∧
      [["./vendor/"], ["./", "a"]].foldl without s =
        [["a", "./vendor/", "a"], [], ["./", "./vendor/"]].foldl without s ∧
      (s.without ["./vendor/", "./"]).files = ["a/x.ts", "vendored/z.ts"] ∧
      (s.without ["./vendor/", "./"]).records.get? "a/x.ts" = some ⟨["b"], [], []⟩ := by
  intro s
  obtain ⟨_, _, hsteps, _, hrecords, _⟩ := without_composes s
  have hsame : ∀ text, text ∈ [["./vendor/"], ["./", "a"]].flatten ↔
      text ∈ [["a", "./vendor/", "a"], [], ["./", "./vendor/"]].flatten := fun text => by
    simp only [List.flatten_cons, List.flatten_nil, List.mem_append, List.mem_cons,
      List.not_mem_nil, or_false, false_or]
    tauto
  exact ⟨hsame, hsteps _ _ hsame, by decide, (hrecords _ _ _).mpr ⟨by decide, by decide⟩⟩

end Survey

end ImportSurvey
