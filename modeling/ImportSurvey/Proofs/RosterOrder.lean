import Mathlib.Data.List.Induction
import Mathlib.Data.List.Nodup
import ImportSurvey.Roster

namespace ImportSurvey

theorem eraseDups_concat (names : List String) (name : String) :
    (names ++ [name]).eraseDups =
      if name ∈ names then names.eraseDups else names.eraseDups ++ [name] := by
  rw [List.eraseDups_append, List.removeAll]
  split
  next h => simp [h]
  next h => simp [h, List.eraseDups_cons]

theorem nodup_eraseDups (names : List String) : names.eraseDups.Nodup := by
  induction names using List.reverseRecOn with
  | nil => exact List.nodup_nil
  | append_singleton names name ih =>
    rw [eraseDups_concat]
    split
    next => exact ih
    next h => exact List.concat_eq_append ▸ ih.concat (mt List.mem_eraseDups.mp h)

theorem eraseDups_of_nodup {names : List String} (h : names.Nodup) : names.eraseDups = names := by
  induction names using List.reverseRecOn with
  | nil => rfl
  | append_singleton names name ih =>
    have hnew : name ∉ names := fun hm =>
      (List.nodup_append.mp h).2.2 name hm name List.mem_cons_self rfl
    rw [eraseDups_concat, if_neg hnew, ih (List.nodup_append.mp h).1]

theorem eraseDups_filter (names : List String) (p : String → Bool) :
    (names.filter p).eraseDups = names.eraseDups.filter p := by
  induction names using List.reverseRecOn with
  | nil => rfl
  | append_singleton names name ih =>
    rw [List.filter_append, eraseDups_concat]
    by_cases hp : p name
    · rw [List.filter_cons_of_pos hp, List.filter_nil, eraseDups_concat, ih]
      by_cases hm : name ∈ names
      · simp [hm, hp]
      · simp [hm, hp]
    · rw [List.filter_cons_of_neg hp, List.filter_nil, List.append_nil, ih]
      by_cases hm : name ∈ names
      · simp [hm]
      · simp [hm, hp]

theorem eraseDups_append (names more : List String) :
    (names ++ more).eraseDups = names.eraseDups ++ more.eraseDups.filter (· ∉ names) := by
  rw [List.eraseDups_append, ← eraseDups_filter, List.removeAll]
  simp only [List.elem_eq_mem, decide_not]

/-- Names that have all been there before make no difference, wherever they stand. -/
theorem eraseDups_of_repeats {front repeated : List String} (h : ∀ name ∈ repeated, name ∈ front)
    (back : List String) : (front ++ (repeated ++ back)).eraseDups = (front ++ back).eraseDups := by
  have hnone : repeated.filter (· ∉ front) = [] :=
    List.filter_eq_nil_iff.mpr fun name hn => by simpa using h name hn
  have hskip : (repeated ++ back).filter (· ∉ front) = back.filter (· ∉ front) := by
    rw [List.filter_append, hnone, List.nil_append]
  rw [eraseDups_append, ← eraseDups_filter, hskip, eraseDups_filter, ← eraseDups_append]

theorem eraseDups_append_of_repeats {front repeated : List String}
    (h : ∀ name ∈ repeated, name ∈ front) : (front ++ repeated).eraseDups = front.eraseDups := by
  have hskip := eraseDups_of_repeats h []
  rwa [List.append_nil, List.append_nil] at hskip

namespace Roster

theorem toList_enter (r : Roster) (name : String) :
    (r.enter name).toList = if name ∈ r.toList then r.toList else r.toList ++ [name] := by
  unfold enter toList contains
  have hseen := r.mem_seen name
  by_cases h : name ∈ r.order.toList
  · have hc : r.seen.contains name := Std.HashSet.mem_iff_contains.mp (hseen.mpr h)
    simp only [hc, h, if_true]
  · have hc : ¬r.seen.contains name := fun hc => h (hseen.mp (Std.HashSet.mem_iff_contains.mpr hc))
    simp only [hc, h, if_false, Array.toList_push, Bool.false_eq_true]

theorem toList_ofList (names : List String) : (ofList names).toList = names.eraseDups := by
  induction names using List.reverseRecOn with
  | nil => rfl
  | append_singleton names name ih =>
    have hlast : ofList (names ++ [name]) = (ofList names).enter name := List.foldl_concat ..
    rw [hlast, toList_enter, ih, eraseDups_concat]
    simp only [List.mem_eraseDups]

end Roster

theorem firstOccurrences_eq_eraseDups (names : List String) :
    firstOccurrences names = names.eraseDups :=
  Roster.toList_ofList names

theorem mem_firstOccurrences {names : List String} {name : String} :
    name ∈ firstOccurrences names ↔ name ∈ names := by
  rw [firstOccurrences_eq_eraseDups, List.mem_eraseDups]

/-- Names without repetition stay as they are. -/
theorem firstOccurrences_of_nodup {names : List String} (h : names.Nodup) :
    firstOccurrences names = names := by
  rw [firstOccurrences_eq_eraseDups, eraseDups_of_nodup h]

end ImportSurvey
