import ImportSurvey.Proofs.RealPlaces
import ImportSurvey.Proofs.SettingsLayers
import ImportSurvey.Proofs.TextCuts

namespace ImportSurvey

namespace Settings

variable {d : Disk} {o : ScanOptions} {s : Settings}

theorem ofOptions_eq_ok_iff :
    ofOptions d o = .ok s ↔ ∃ base loaded aliases, d.realPlace o.base = .ok base ∧
      load d base = .ok loaded ∧ o.aliases.mapM splitAlias = .ok aliases ∧
      s = loaded.override o aliases := by
  simp only [ofOptions, bind_eq_ok_iff, mapError_eq_ok_iff, pure_eq_ok_iff]
  constructor
  · rintro ⟨base, hbase, loaded, hloaded, aliases, haliases, rfl⟩
    exact ⟨base, loaded, aliases, hbase, hloaded, haliases, rfl⟩
  · rintro ⟨base, loaded, aliases, hbase, hloaded, haliases, rfl⟩
    exact ⟨base, hbase, loaded, hloaded, aliases, haliases, rfl⟩

end Settings

end ImportSurvey
