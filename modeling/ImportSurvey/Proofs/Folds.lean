namespace ImportSurvey

theorem foldl_iff {σ β : Type} {step : σ → β → σ} {P : σ → Prop} {Q : β → Prop}
    (hstep : ∀ s b, P (step s b) ↔ P s ∨ Q b) (s : σ) (list : List β) :
    P (list.foldl step s) ↔ P s ∨ ∃ b ∈ list, Q b := by
  induction list generalizing s with
  | nil => simp
  | cons b rest ih =>
    rw [List.foldl_cons, ih, hstep, or_assoc]
    simp only [List.mem_cons, exists_eq_or_imp]

end ImportSurvey
