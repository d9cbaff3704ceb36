import ImportSurvey.Json.Reader
import ImportSurvey.Proofs.CommentPieces

namespace ImportSurvey.JsonValue

open JsonComments (StringItem stringText)

/-- Where digits are read, either something else comes among them, or whole characters of the string
are the digits. -/
theorem digits_of_stringText (count : Nat) (items : List StringItem) :
    (∀ rest, ¬((stringText items ++ '"' :: rest).take count).all (Text.isDigitIn 16)) ∨
      ∃ (digits : List Char) (more : List StringItem), digits.length = count ∧
        stringText items = digits ++ stringText more := by
  have hmarks : Text.isDigitIn 16 '"' = false ∧ Text.isDigitIn 16 '\\' = false := by decide
  induction count generalizing items with
  | zero => exact .inr ⟨[], items, rfl, rfl⟩
  | succ count ih =>
    cases items with
    | nil => exact .inl fun rest => by simp [stringText, hmarks]
    | cons item items =>
      cases item with
      | escaped c => exact .inl fun rest => by simp [stringText, hmarks]
      | plain c hquote hslash =>
        rcases ih items with hnone | ⟨digits, more, hlen, htext⟩
        · left
          intro rest hall
          apply hnone rest
          simp only [stringText, List.cons_append, List.take_succ_cons, List.all_cons,
            Bool.and_eq_true] at hall
          exact hall.2
        · exact .inr ⟨c :: digits, more, by simp [hlen], by simp [stringText, htext]⟩

theorem readDigits?_stringText (count : Nat) (items : List StringItem) :
    (∀ rest, Text.readDigits? 16 count (stringText items ++ '"' :: rest) = none) ∨
      ∃ (code : Nat) (more : List StringItem),
        (stringText more).length ≤ (stringText items).length ∧
        ∀ rest, Text.readDigits? 16 count (stringText items ++ '"' :: rest) =
          some (code, stringText more ++ '"' :: rest) := by
  rcases digits_of_stringText count items with hnone | ⟨digits, more, rfl, htext⟩
  · left
    intro rest
    rw [Text.readDigits?, if_neg]
    exact fun h => hnone rest h.2
  · by_cases hall : digits.all (Text.isDigitIn 16)
    · right
      refine ⟨Text.numberIn 16 digits, more, by simp [htext], fun rest => ?_⟩
      rw [htext, List.append_assoc, Text.readDigits?, List.take_left, List.drop_left,
        if_pos ⟨rfl, hall⟩]
    · left
      intro rest
      rw [htext, List.append_assoc, Text.readDigits?, List.take_left, if_neg fun h => hall h.2]

theorem readPieces?_plain {c : Char} (hquote : c ≠ '"') (hslash : c ≠ '\\') (n : Nat)
    (rest : List Char) : readPieces? (n + 1) (c :: rest) =
      if c.toNat < 0x20 then none
      else (readPieces? n rest).map fun (ps, r) => (.char c :: ps, r) := by
  rw [readPieces?]
  · exact hquote
  · exact fun _ _ h _ => hslash h

/-- Behind a backslash a character stands for one character, or it calls for digits, or it is
refused. -/
theorem readPieces?_escaped (c : Char) :
    (∃ d, ∀ n rest, readPieces? (n + 1) ('\\' :: c :: rest) =
        (readPieces? n rest).map fun (ps, r) => (.char d :: ps, r)) ∨
      c = 'u' ∨ ∀ n rest, readPieces? (n + 1) ('\\' :: c :: rest) = none := by
  by_cases hc : c ∈ ['"', '\\', '/', 'b', 'f', 'n', 'r', 't']
  · left
    simp only [List.mem_cons, List.not_mem_nil, or_false] at hc
    rcases hc with rfl | rfl | rfl | rfl | rfl | rfl | rfl | rfl <;> exact ⟨_, fun _ _ => rfl⟩
  · right
    by_cases hunit : c = 'u'
    · exact .inl hunit
    · right
      intro n rest
      simp only [List.mem_cons, List.not_mem_nil, or_false, not_or] at hc
      simp only [readPieces?]
      split <;> simp_all

/-- Reading a whole string gives the same result whatever follows it. -/
theorem readPieces?_stringText (items : List StringItem) :
    ∃ outcome : Option (List Piece), ∀ n rest, (stringText items).length < n →
      readPieces? n (stringText items ++ '"' :: rest) = outcome.map (·, rest) := by
  induction hlen : (stringText items).length using Nat.strongRecOn generalizing items with
  | ind len ih =>
    subst hlen
    suffices hsucc : ∃ outcome : Option (List Piece), ∀ n rest, (stringText items).length ≤ n →
        readPieces? (n + 1) (stringText items ++ '"' :: rest) = outcome.map (·, rest) by
      obtain ⟨outcome, h⟩ := hsucc
      refine ⟨outcome, fun n rest hn => ?_⟩
      obtain ⟨n, rfl⟩ := Nat.exists_eq_succ_of_ne_zero (by omega : n ≠ 0)
      exact h n rest (by omega)
    cases items with
    | nil => exact ⟨some [], fun _ _ _ => rfl⟩
    | cons item items =>
      cases item with
      | plain c hquote hslash =>
        simp only [stringText, List.length_cons, List.cons_append] at ih ⊢
        obtain ⟨outcome, h⟩ := ih _ (by omega) items rfl
        refine ⟨if c.toNat < 0x20 then none else outcome.map (.char c :: ·), fun n rest hn => ?_⟩
        rw [readPieces?_plain hquote hslash, h n rest (by omega)]
        split
        next => rfl
        next => cases outcome <;> rfl
      | escaped c =>
        simp only [stringText, List.length_cons, List.cons_append] at ih ⊢
        rcases readPieces?_escaped c with ⟨d, hone⟩ | rfl | hnone
        · obtain ⟨outcome, h⟩ := ih _ (by omega) items rfl
          refine ⟨outcome.map (.char d :: ·), fun n rest hn => ?_⟩
          rw [hone, h n rest (by omega)]
          cases outcome <;> rfl
        · rcases readDigits?_stringText 4 items with hnone | ⟨code, more, hmore, hsome⟩
          · exact ⟨none, fun n rest hn => by simp [readPieces?, hnone rest]⟩
          · obtain ⟨outcome, h⟩ := ih _ (by omega) more rfl
            refine ⟨outcome.map (.unit code :: ·), fun n rest hn => ?_⟩
            simp only [readPieces?, hsome rest, Option.bind_eq_bind, Option.bind_some,
              h n rest (by omega)]
            cases outcome <;> rfl
        · exact ⟨none, fun n rest hn => hnone n _⟩

theorem readString?_stringText (items : List StringItem) :
    ∃ outcome : Option (Option String), ∀ rest,
      readString? (stringText items ++ '"' :: rest) = outcome.map (·, rest) := by
  obtain ⟨outcome, h⟩ := readPieces?_stringText items
  refine ⟨outcome.map fun pieces => (spell? pieces).map String.ofList, fun rest => ?_⟩
  have hlen : (stringText items).length < (stringText items ++ '"' :: rest).length + 1 := by
    rw [List.length_append]
    omega
  rw [readString?, h _ rest hlen]
  cases outcome <;> rfl

end ImportSurvey.JsonValue
