import ImportSurvey.Json.Comments

namespace ImportSurvey.JsonComments

/-- What a character belongs to. -/
inductive Part where
  | plain
  | string
  | comment
deriving DecidableEq, Repr

/-- The characters of a text from a place on, each with what it belongs to. The end of a line is not
part of the comment before it. -/
def partsFrom : Mode → List Char → List (Char × Part)
  | _, [] => []
  | .plain, '"' :: rest => ('"', .string) :: partsFrom .string rest
  | .plain, '/' :: '/' :: rest => ('/', .comment) :: ('/', .comment) :: partsFrom .line rest
  | .plain, '/' :: '*' :: rest => ('/', .comment) :: ('*', .comment) :: partsFrom .block rest
  | .plain, c :: rest => (c, .plain) :: partsFrom .plain rest
  | .string, '\\' :: c :: rest => ('\\', .string) :: (c, .string) :: partsFrom .string rest
  | .string, '"' :: rest => ('"', .string) :: partsFrom .plain rest
  | .string, c :: rest => (c, .string) :: partsFrom .string rest
  | .line, '\n' :: rest => ('\n', .plain) :: partsFrom .plain rest
  | .line, c :: rest => (c, .comment) :: partsFrom .line rest
  | .block, '*' :: '/' :: rest => ('*', .comment) :: ('/', .comment) :: partsFrom .plain rest
  | .block, c :: rest => (c, .comment) :: partsFrom .block rest

/-- The characters of a text, each with what it belongs to. -/
def parts (text : String) : List (Char × Part) := partsFrom .plain text.toList

/-- What does not belong to a comment. -/
def uncommented (parts : List (Char × Part)) : List (Char × Part) :=
  parts.filter (·.2 ≠ .comment)

theorem map_fst_partsFrom (mode : Mode) (text : List Char) :
    (partsFrom mode text).map Prod.fst = text := by
  fun_induction partsFrom mode text <;> simp_all

theorem stripFrom_eq_map_uncommented (mode : Mode) (text : List Char) :
    stripFrom mode text = (uncommented (partsFrom mode text)).map Prod.fst := by
  fun_induction stripFrom mode text <;> simp_all [partsFrom, uncommented]

/-- How the text goes on behind a place once the comments are gone. -/
def Mode.uncommented : Mode → Mode
  | .string => .string
  | _ => .plain

/-- A character outside strings that makes a comment with what follows it. -/
def StartsComment (c : Char) (rest : List Char) : Prop :=
  c = '/' ∧ (rest.head? = some '/' ∨ rest.head? = some '*')

theorem stripFrom_plain_cons {c : Char} {rest : List Char} (hquote : c ≠ '"')
    (hstart : ¬StartsComment c rest) :
    stripFrom .plain (c :: rest) = c :: stripFrom .plain rest := by
  rw [stripFrom]
  · exact hquote
  · rintro more rfl rfl
    exact hstart ⟨rfl, .inl rfl⟩
  · rintro more rfl rfl
    exact hstart ⟨rfl, .inr rfl⟩

theorem partsFrom_plain_cons {c : Char} {rest : List Char} (hquote : c ≠ '"')
    (hstart : ¬StartsComment c rest) :
    partsFrom .plain (c :: rest) = (c, .plain) :: partsFrom .plain rest := by
  rw [partsFrom]
  · exact hquote
  · rintro more rfl rfl
    exact hstart ⟨rfl, .inl rfl⟩
  · rintro more rfl rfl
    exact hstart ⟨rfl, .inr rfl⟩

/-- A backslash in a string is followed by the character that it stands for, if by any. -/
theorem partsFrom_string_cons {c : Char} {rest : List Char} (hquote : c ≠ '"')
    (hescape : c = '\\' → rest = []) :
    partsFrom .string (c :: rest) = (c, .string) :: partsFrom .string rest := by
  rw [partsFrom]
  · rintro next more rfl rfl
    simp at hescape
  · exact hquote

theorem head?_stripFrom {c : Char} (hslash : c ≠ '/') (rest : List Char) :
    (stripFrom .plain (c :: rest)).head? = some c := by
  by_cases hquote : c = '"'
  · subst hquote
    rfl
  · rw [stripFrom_plain_cons hquote fun hstart => hslash hstart.1]
    rfl

/-- Where no comment starts, none starts once those behind are gone: a comment starts with a slash,
and a slash with a slash behind it would have started one itself. -/
theorem not_startsComment_stripFrom {c : Char} {rest : List Char} (h : ¬StartsComment c rest) :
    ¬StartsComment c (stripFrom .plain rest) := by
  rintro ⟨hslash, hnext⟩
  cases rest with
  | nil => simp [stripFrom] at hnext
  | cons next more =>
    have hne : next ≠ '/' := fun heq => h ⟨hslash, .inl (by simp [heq])⟩
    rw [head?_stripFrom hne] at hnext
    exact h ⟨hslash, hnext⟩

/-- What is kept belongs where it belonged before, and none of it belongs to a comment. -/
theorem partsFrom_stripFrom (mode : Mode) (text : List Char) :
    partsFrom mode.uncommented (stripFrom mode text) = uncommented (partsFrom mode text) := by
  fun_induction stripFrom mode text with
  | case1 mode => cases mode <;> rfl
  | case2 rest ih | case3 rest ih | case4 rest ih | case6 c rest ih | case7 rest ih | case9 rest ih
  | case11 rest ih => simpa [partsFrom, uncommented, Mode.uncommented] using ih
  | case10 c rest hend ih | case12 c rest hend ih =>
    simpa [partsFrom, uncommented, Mode.uncommented] using ih
  | case5 c rest hquote hline hblock ih =>
    have hstart : ¬StartsComment c rest := by
      rintro ⟨rfl, hnext | hnext⟩
      · obtain ⟨more, rfl⟩ := List.head?_eq_some_iff.mp hnext
        exact hline more rfl rfl
      · obtain ⟨more, rfl⟩ := List.head?_eq_some_iff.mp hnext
        exact hblock more rfl rfl
    rw [partsFrom_plain_cons hquote hstart]
    simpa [uncommented, Mode.uncommented,
      partsFrom_plain_cons hquote (not_startsComment_stripFrom hstart)] using ih
  | case8 c rest hescape hquote ih =>
    have hlast : c = '\\' → rest = [] := by
      rintro rfl
      cases rest with
      | nil => rfl
      | cons next more => exact absurd rfl (hescape next more rfl)
    have hkept : c = '\\' → stripFrom .string rest = [] := fun hc => by
      rw [hlast hc, stripFrom]
    rw [partsFrom_string_cons hquote hlast]
    simpa [uncommented, Mode.uncommented, partsFrom_string_cons hquote hkept] using ih

theorem toList_strip (text : String) :
    (strip text).toList = (uncommented (parts text)).map Prod.fst := by
  rw [strip, String.toList_ofList, stripFrom_eq_map_uncommented, parts]

theorem parts_strip (text : String) : parts (strip text) = uncommented (parts text) := by
  rw [parts, strip, String.toList_ofList]
  exact partsFrom_stripFrom .plain text.toList

/-- Removing comments twice is the same as removing them once, whatever the text. What is removed is
what belongs to comments; no new comment arises from what is left, and each character of it is
inside or outside of strings as it was before. -/
theorem strip_strip (text : String) :
    strip (strip text) = strip text ∧
      (parts text).map Prod.fst = text.toList ∧
      (strip text).toList = (uncommented (parts text)).map Prod.fst ∧
      parts (strip text) = uncommented (parts text) := by
  refine ⟨?_, map_fst_partsFrom .plain text.toList, toList_strip text, parts_strip text⟩
  apply String.toList_inj.mp
  rw [toList_strip, parts_strip, toList_strip, uncommented, uncommented, List.filter_filter]
  simp

end ImportSurvey.JsonComments
