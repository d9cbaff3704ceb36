import ImportSurvey.Disk.Place
import ImportSurvey.Proofs.PathSegments

namespace ImportSurvey.Place

@[simp]
theorem parts_ne_nil (place : String) : parts place ≠ [] := Path.segments_ne_nil place

theorem endsWith_slash_iff {place : String} :
    place.endsWith "/" ↔ place.toList.getLast? = some '/' := by
  rw [String.endsWith_eq_endsWith_toSlice, String.Slice.endsWith_string_iff, String.copy_toSlice,
    List.getLast?_eq_some_iff]
  constructor
  · rintro ⟨before, h⟩
    exact ⟨before, h.symm⟩
  · rintro ⟨before, h⟩
    exact ⟨before, h.symm⟩

theorem endsWith_slash_append {text place : String} (hne : place ≠ "") :
    (text ++ place).endsWith "/" = place.endsWith "/" := by
  obtain ⟨c, hc⟩ := Option.ne_none_iff_exists'.mp
    (mt List.getLast?_eq_none_iff.mp (mt String.toList_eq_nil_iff.mp hne))
  rw [Bool.eq_iff_iff, endsWith_slash_iff, endsWith_slash_iff, String.toList_append,
    List.getLast?_append, hc, Option.some_or]

theorem startsWith_slash_append {place text : String} (hne : place ≠ "") :
    (place ++ text).startsWith "/" = place.startsWith "/" := by
  obtain ⟨c, rest, hc⟩ := List.exists_cons_of_ne_nil (mt String.toList_eq_nil_iff.mp hne)
  rw [Bool.eq_iff_iff, String.startsWith_string_iff, String.startsWith_string_iff,
    String.toList_append, hc]
  simp

/-- What stands in front of a name in a folder. -/
def lead (place : String) : String :=
  if place.isEmpty || place.endsWith "/" then place else place ++ "/"

theorem join_relative (place : String) {name : String} (hrel : ¬name.startsWith "/") :
    join place name = lead place ++ name := by
  unfold join lead
  rw [if_neg hrel]
  split
  next => rfl
  next => rfl

theorem lead_append (text : String) {place : String} (hne : place ≠ "") :
    lead (text ++ place) = text ++ lead place := by
  unfold lead
  have hempty : (text ++ place).isEmpty = false := by simp [hne]
  have hempty' : place.isEmpty = false := by simp [hne]
  rw [hempty, hempty', endsWith_slash_append hne]
  cases place.endsWith "/" with
  | true => rfl
  | false => exact String.append_assoc ..

theorem lead_ne_empty {place : String} (hne : place ≠ "") : lead place ≠ "" := by
  unfold lead
  split
  next => exact hne
  next => simp

theorem startsWith_slash_join {place name : String} (hne : place ≠ "")
    (hrel : ¬name.startsWith "/") : (join place name).startsWith "/" = place.startsWith "/" := by
  rw [join_relative place hrel, startsWith_slash_append (lead_ne_empty hne)]
  unfold lead
  split
  next => rfl
  next => exact startsWith_slash_append hne

/-- Joining a name that is no place of its own can be put off. -/
theorem join_join (outer : String) {place name : String} (hne : place ≠ "")
    (hplace : ¬place.startsWith "/") (hrel : ¬name.startsWith "/") :
    join outer (join place name) = join (join outer place) name := by
  have hinner : ¬(join place name).startsWith "/" := by
    rw [startsWith_slash_join hne hrel]
    exact hplace
  rw [join_relative outer hinner, join_relative place hrel, join_relative outer hplace,
    join_relative _ hrel, lead_append _ hne, String.append_assoc]

/-- A slash at the end of the folder leaves an empty part there, which the joined place lacks. -/
theorem parts_join {place name : String} (hne : place ≠ "") (hrel : ¬name.startsWith "/") :
    ∃ front idle, (idle = [] ∨ idle = [""]) ∧ parts place = front ++ idle ∧
      parts (join place name) = front ++ parts name := by
  rw [join_relative place hrel]
  by_cases hend : place.endsWith "/"
  · obtain ⟨before, hbefore⟩ := List.getLast?_eq_some_iff.mp (endsWith_slash_iff.mp hend)
    have hplace : place = String.ofList before ++ "/" := by
      apply String.toList_inj.mp
      simp [hbefore]
    have hlead : lead place = String.ofList before ++ "/" := by simp [lead, hend, ← hplace]
    have hempty := Path.segments_append_slash (String.ofList before) ""
    rw [String.append_empty, ← hplace] at hempty
    refine ⟨parts (String.ofList before), [""], .inr rfl, hempty, ?_⟩
    rw [hlead]
    exact Path.segments_append_slash _ name
  · have hlead : lead place = place ++ "/" := by simp [lead, hend, hne]
    refine ⟨parts place, [], .inl rfl, by simp, ?_⟩
    rw [hlead]
    exact Path.segments_append_slash place name

end ImportSurvey.Place
