import ImportSurvey.Proofs.ScopeRepeats
import ImportSurvey.Proofs.SettingsCascade
import ImportSurvey.Proofs.SurveyExclusion

namespace ImportSurvey

variable {d : Disk}

namespace Settings

variable {s : Settings} {found : Survey}

/-- At the root folder only the options count, unless a settings file stands there. -/
theorem ofOptions_slash {o : ScanOptions} {aliases : List (String × String)}
    (hroot : d.root.isFolder) (hnone : ¬d.isFile ("/" ++ SettingsFile.name)) (hbase : o.base = "/")
    (haliases : o.aliases.mapM splitAlias = .ok aliases) :
    ofOptions d o = .ok ((ofBase "/").override o aliases) := by
  have hreal : d.realPlace "/" = .ok "/" := by
    exact Disk.realPlace_eq_ok_iff.mpr ⟨_, Disk.look_slash hroot true, by decide, rfl⟩
  have hfiles : filesAbove d "/" = [] := by
    have hchain : Place.chain "/" = ["/"] := by decide
    have hplace : Place.join "/" SettingsFile.name = "/" ++ SettingsFile.name := by
      simp [Place.join, SettingsFile.name, Place.endsWith_slash_iff]
    simp [filesAbove, hchain, hplace, hnone]
  have hload : load d "/" = .ok (ofBase "/") := by
    simp only [load, hreal, hfiles]
    rfl
  exact ofOptions_eq_ok_iff.mpr ⟨"/", _, aliases, by rw [hbase, hreal], hload, haliases, rfl⟩

/-- The survey for settings is one by their plan, without what they exclude. -/
theorem survey_eq_ok_iff :
    s.survey d = .ok found ↔ ∃ p all, s.plan d = .ok p ∧ p.survey d = .ok all ∧
      found = all.without (s.exclusions all) := by
  have hall : ∀ all, (if (s.exclusions all).isEmpty then all
      else all.without (s.exclusions all)) = all.without (s.exclusions all) := by
    intro all
    split
    next hnil => rw [List.isEmpty_iff.mp hnil, Survey.without_nil]
    next => rfl
  simp only [survey, bind_eq_ok_iff, mapError_eq_ok_iff, pure_eq_ok_iff, hall]
  constructor
  · rintro ⟨p, hplan, all, hsurvey, rfl⟩
    exact ⟨p, all, hplan, hsurvey, rfl⟩
  · rintro ⟨p, all, hplan, hsurvey, rfl⟩
    exact ⟨p, hplan, all, hsurvey, rfl⟩

theorem survey_eq_ok {p : Plan} (hplan : s.plan d = .ok p) (hfound : p.survey d = .ok found)
    (hall : s.exclusions found = []) : s.survey d = .ok found :=
  survey_eq_ok_iff.mpr ⟨p, found, hplan, hfound, by rw [hall, Survey.without_nil]⟩

end Settings

namespace Command

variable {coloured : Bool} {c : Command} {answer : Answer}

/-- A command that runs to its end has settings and a survey, and its answer is about these. -/
theorem run_eq_ok_iff :
    c.run d coloured = .ok answer ↔ ∃ settings s, Settings.ofOptions d c.options = .ok settings ∧
      settings.survey d = .ok s ∧ perform coloured settings s c.task = answer := by
  simp only [run, bind_eq_ok_iff, pure_eq_ok_iff]
  constructor
  · rintro ⟨settings, hsettings, s, hsurvey, hanswer⟩
    exact ⟨settings, s, hsettings, hsurvey, hanswer⟩
  · rintro ⟨settings, s, hsettings, hsurvey, hanswer⟩
    exact ⟨settings, hsettings, s, hsurvey, hanswer⟩

theorem exit_checked (strict found : Bool) (note : String) (output notes : List String) :
    (checked strict found note output notes).exit =
      if strict && found then .checkFailed else .success := by
  unfold checked
  split <;> rfl

end Command

end ImportSurvey
