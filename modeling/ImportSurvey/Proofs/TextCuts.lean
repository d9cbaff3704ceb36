import Mathlib.Data.List.DropRight
import ImportSurvey.Text.Cut

namespace ImportSurvey.Text

theorem after?_eq_some_iff {start text rest : List Char} :
    after? start text = some rest ↔ text = start ++ rest := by
  induction start generalizing text with
  | nil => simp [after?]
  | cons s start ih =>
    cases text with
    | nil => simp [after?]
    | cons c text =>
      by_cases h : s = c
      · simp [after?, h, ih]
      · simp [after?, h, Ne.symm h]

theorem before?_eq_some_iff {ending text stem : List Char} :
    before? ending text = some stem ↔ text = stem ++ ending := by
  simp only [before?, Option.map_eq_some_iff, after?_eq_some_iff]
  constructor
  · rintro ⟨r, hr, rfl⟩
    have := congrArg List.reverse hr
    simpa using this
  · rintro rfl
    exact ⟨stem.reverse, by simp, by simp⟩

theorem cutLast?_eq_none_iff {mark : Char} {text : List Char} :
    cutLast? mark text = none ↔ mark ∉ text := by
  induction text with
  | nil => simp [cutLast?]
  | cons c rest ih =>
    cases hr : cutLast? mark rest with
    | some cut =>
      have hm : mark ∈ rest := by simpa [hr] using ih
      simp [cutLast?, hr, hm]
    | none =>
      have hm : mark ∉ rest := ih.mp hr
      by_cases hc : c = mark
      · simp [cutLast?, hr, hc]
      · simp [cutLast?, hr, hc, hm, Ne.symm hc]

theorem cutLast?_append {mark : Char} {before after : List Char} (hafter : mark ∉ after) :
    cutLast? mark (before ++ mark :: after) = some (before, after) := by
  have hnone := cutLast?_eq_none_iff.mpr hafter
  induction before with
  | nil => simp [cutLast?, hnone]
  | cons c rest ih => simp [cutLast?, ih]

theorem append_of_cutLast? {mark : Char} {text before after : List Char}
    (h : cutLast? mark text = some (before, after)) :
    text = before ++ mark :: after ∧ mark ∉ after := by
  induction text generalizing before with
  | nil => simp [cutLast?] at h
  | cons c rest ih =>
    cases hr : cutLast? mark rest with
    | some cut =>
      simp only [cutLast?, hr, Option.some.injEq, Prod.mk.injEq] at h
      obtain ⟨rfl, rfl⟩ := h
      obtain ⟨hrest, hafter⟩ := ih hr
      exact ⟨by simp [hrest], hafter⟩
    | none =>
      simp only [cutLast?, hr] at h
      split at h
      next hc =>
        obtain ⟨rfl, rfl⟩ := Prod.mk.inj (Option.some.inj h)
        exact ⟨by simp [hc], cutLast?_eq_none_iff.mp hr⟩
      next => simp at h

/-- The cut lies at the last mark: none is left behind it. -/
theorem cutLast?_eq_some_iff {mark : Char} {text before after : List Char} :
    cutLast? mark text = some (before, after) ↔ text = before ++ mark :: after ∧ mark ∉ after := by
  constructor
  · exact append_of_cutLast?
  · rintro ⟨rfl, hafter⟩
    exact cutLast?_append hafter

theorem not_of_head?_dropWhile {p : Char → Bool} {text : List Char} {c : Char}
    (h : (text.dropWhile p).head? = some c) : ¬p c := by
  have hfirst := List.head?_dropWhile_not p text
  rw [h] at hfirst
  exact Bool.eq_false_iff.mp hfirst

/-- What is left after dropping from the end does not end with something that would be dropped. -/
theorem not_of_getLast?_rdropWhile {p : Char → Bool} {text : List Char} {c : Char}
    (h : (text.rdropWhile p).getLast? = some c) : ¬p c := by
  have hne : text.rdropWhile p ≠ [] := fun hnil => by simp [hnil] at h
  have hlast : (text.rdropWhile p).getLast hne = c := by
    rw [List.getLast?_eq_some_getLast hne] at h
    exact Option.some.inj h
  exact hlast ▸ List.rdropWhile_last_not p text hne

theorem replace_of_not_mem {old new : Char} {text : List Char} (h : old ∉ text) :
    replace old new text = text := by
  refine (List.map_congr_left (g := id) fun c hc => ?_).trans (List.map_id _)
  have hne : c ≠ old := fun heq => h (heq ▸ hc)
  exact if_neg hne

end ImportSurvey.Text
