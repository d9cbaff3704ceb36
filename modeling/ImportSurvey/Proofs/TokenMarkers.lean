import ImportSurvey.Proofs.PathSegments
import ImportSurvey.Token

namespace ImportSurvey.Token

/-- The first segment names the folder itself or the one above. -/
def Marked (text : String) : Prop :=
  (Path.segments text).head? = some "." ∨ (Path.segments text).head? = some ".."

/-- The text that a token stands for as a path: what a dotted module name is rewritten to, or the
token itself. -/
def pathText (token : String) : String := (dotted? token).getD token

/-- The token or its dotted rewriting begins with a marker. -/
def Relative (token : String) : Prop :=
  Marked token ∨ ∃ path, dotted? token = some path ∧ Marked path

theorem head?_segments_eq_some_iff {marker token : String} (free : '/' ∉ marker.toList) :
    (Path.segments token).head? = some marker ↔
      token = marker ∨ (marker ++ "/").toList <+: token.toList := by
  rw [← Path.segments_prefix_iff, Path.segments_of_not_mem free]
  cases Path.segments token with
  | nil => simp
  | cons first rest => simp [eq_comm]

theorem isRelative_iff_marked {token : String} : isRelative token ↔ Marked token := by
  unfold Marked
  rw [head?_segments_eq_some_iff (by decide), head?_segments_eq_some_iff (by decide)]
  simp only [isRelative, Bool.or_eq_true, beq_iff_eq, List.isPrefixOf_iff_prefix]
  have hdot : "." ++ "/" = "./" := by decide
  have hdots : ".." ++ "/" = "../" := by decide
  rw [hdot, hdots]
  constructor
  · rintro (((h | h) | h) | h)
    · exact .inl (.inl h)
    · exact .inr (.inl h)
    · exact .inl (.inr h)
    · exact .inr (.inr h)
  · rintro ((h | h) | (h | h))
    · exact .inl (.inl (.inl h))
    · exact .inl (.inr h)
    · exact .inl (.inl (.inr h))
    · exact .inr h

theorem marked_append_slash {front : String} (h : Marked front) (back : String) :
    Marked (front ++ "/" ++ back) := by
  unfold Marked at h ⊢
  rw [Path.segments_append_slash, List.head?_append]
  rcases h with h | h
  · simp [h]
  · simp [h]

theorem segments_climb {dots : Nat} (h : 2 ≤ dots) :
    Path.segments (climb dots) = List.replicate (dots - 1) ".." := by
  have hclimb : climb dots = Path.ofSegments (List.replicate (dots - 1) "..") := by
    simp [climb, Path.ofSegments, show dots ≠ 1 by omega]
  rw [hclimb, Path.segments_ofSegments]
  · intro hnil
    have := congrArg List.length hnil
    simp at this
    omega
  · intro s hs
    rw [List.eq_of_mem_replicate hs]
    decide

theorem marked_climb {dots : Nat} (h : dots ≠ 0) : Marked (climb dots) := by
  by_cases h1 : dots = 1
  · left
    have hfree : '/' ∉ ".".toList := by decide
    simp [h1, climb, Path.segments_of_not_mem hfree]
  · right
    rw [segments_climb (by omega), List.head?_replicate]
    simp [show dots - 1 ≠ 0 by omega]

/-- The rewriting of a dotted module name begins with a marker. -/
theorem marked_of_dotted? {token path : String} (h : dotted? token = some path) : Marked path := by
  unfold dotted? at h
  simp only at h
  split at h
  next => simp at h
  next hdots =>
    simp only [Bool.or_eq_true, decide_eq_true_eq, not_or] at hdots
    split at h
    next =>
      split at h
      next => simp at h
      next =>
        cases Option.some.inj h
        exact marked_climb hdots.1
    next =>
      split at h
      next =>
        cases Option.some.inj h
        exact marked_append_slash (marked_climb hdots.1) _
      next => simp at h

theorem isRelative_pathText {token : String} : isRelative (pathText token) ↔ Relative token := by
  unfold Relative pathText
  cases h : dotted? token with
  | none => simp [isRelative_iff_marked]
  | some path =>
    have hm := marked_of_dotted? h
    simp [isRelative_iff_marked, hm]

end ImportSurvey.Token
