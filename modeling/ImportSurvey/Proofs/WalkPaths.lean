import ImportSurvey.Disk.Walk
import ImportSurvey.Proofs.DiskNames
import ImportSurvey.Proofs.TextCuts

namespace ImportSurvey

namespace Path

theorem withSlashes_append (before after : String) :
    withSlashes (before ++ after) = withSlashes before ++ withSlashes after := by
  simp [withSlashes, Text.replace]

theorem withSlashes_of_not_mem {text : String} (h : '\\' ∉ text.toList) :
    withSlashes text = text := by
  apply String.toList_inj.mp
  rw [withSlashes, String.toList_ofList, Text.replace_of_not_mem h]

end Path

theorem walkPath_cons {name : String} {names : List String} (hne : names ≠ []) :
    walkPath (name :: names) = Path.withSlashes name ++ "/" ++ walkPath names := by
  have hcut : "/".intercalate (name :: names) = name ++ "/" ++ "/".intercalate names :=
    Path.ofSegments_cons name hne
  have hslash : Path.withSlashes "/" = "/" := Path.withSlashes_of_not_mem (by simp)
  rw [walkPath, walkPath, hcut, Path.withSlashes_append, Path.withSlashes_append, hslash]

theorem segments_walkPath {names : List String} (hne : names ≠ []) :
    Path.segments (walkPath names) =
      names.flatMap fun name => Path.segments (Path.withSlashes name) := by
  induction names with
  | nil => exact absurd rfl hne
  | cons name rest ih =>
    by_cases hrest : rest = []
    · subst hrest
      simp [walkPath]
    · rw [walkPath_cons hrest, Path.segments_append_slash, ih hrest, List.flatMap_cons]

/-- The path is the names with slashes between them, as long as no name has a backslash. -/
theorem walkPath_of_free {names : List String} (free : ∀ name ∈ names, '\\' ∉ name.toList) :
    walkPath names = Path.ofSegments names := by
  induction names with
  | nil => rfl
  | cons name rest ih =>
    have hname := Path.withSlashes_of_not_mem (free name List.mem_cons_self)
    have hpath := ih fun other ho => free other (List.mem_cons_of_mem _ ho)
    by_cases hrest : rest = []
    · subst hrest
      simpa [walkPath, Path.ofSegments] using hname
    · rw [walkPath_cons hrest, hname, hpath]
      exact (Path.ofSegments_cons name hrest).symm

theorem segments_walkPath_of_free {names : List String} (hne : names ≠ [])
    (legal : ∀ name ∈ names, DiskEntry.LegalName name)
    (free : ∀ name ∈ names, '\\' ∉ name.toList) : Path.segments (walkPath names) = names := by
  rw [walkPath_of_free free]
  exact Path.segments_ofSegments hne fun name hn => (legal name hn).2

/-- A path leads down, segment by segment, if all that stands between backslashes does. -/
theorem normal_walkPath_iff {names : List String} (hne : names ≠ [])
    (hroot : walkPath names ≠ Path.root) :
    Path.Normal (walkPath names) ↔
      ∀ name ∈ names, ∀ piece ∈ Path.segments (Path.withSlashes name), Path.Ordinary piece := by
  rw [Path.Normal, or_iff_right hroot, segments_walkPath hne]
  simp only [List.mem_flatMap]
  constructor
  · intro h name hn piece hp
    exact h piece ⟨name, hn, hp⟩
  · rintro h piece ⟨name, hn, hp⟩
    exact h name hn piece hp

end ImportSurvey
