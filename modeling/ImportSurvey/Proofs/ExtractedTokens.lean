import ImportSurvey.Extraction
import ImportSurvey.Proofs.RosterOrder
import ImportSurvey.Proofs.TextCuts

namespace ImportSurvey

namespace Text

theorem not_of_head?_trimBoth {p : Char → Bool} {text : List Char} {c : Char}
    (h : (trimBoth p text).head? = some c) : ¬p c := by
  have hprefix : trimBoth p text <+: text.dropWhile p := List.rdropWhile_prefix p _
  obtain ⟨rest, hrest⟩ := hprefix
  have hhead : (text.dropWhile p).head? = some c := by
    rw [← hrest, List.head?_append, h, Option.some_or]
  exact not_of_head?_dropWhile hhead

theorem not_of_getLast?_trimBoth {p : Char → Bool} {text : List Char} {c : Char}
    (h : (trimBoth p text).getLast? = some c) : ¬p c :=
  @not_of_getLast?_rdropWhile p (text.dropWhile p) c h

end Text

/-- No white space stands at either end of the text. -/
def Stripped (text : String) : Prop :=
  (∀ c, text.toList.head? = some c → ¬Unicode.isWhiteSpace c) ∧
    ∀ c, text.toList.getLast? = some c → ¬Unicode.isWhiteSpace c

theorem stripped_trimmed (text : String) : Stripped (trimmed text) := by
  unfold Stripped trimmed
  rw [String.toList_ofList]
  exact ⟨fun c => Text.not_of_head?_trimBoth, fun c => Text.not_of_getLast?_trimBoth⟩

theorem mem_tokensOf_iff {m : Matcher} {content token : String} :
    token ∈ tokensOf m content ↔
      token ≠ "" ∧ ∃ text, some text ∈ m content ∧ trimmed text = token := by
  simp only [tokensOf, List.mem_filter, List.mem_filterMap, Option.map_eq_some_iff,
    Bool.not_eq_true', String.isEmpty_eq_false_iff]
  constructor
  · rintro ⟨⟨_, hmem, text, rfl, htext⟩, hne⟩
    exact ⟨hne, text, hmem, htext⟩
  · rintro ⟨hne, text, hmem, htext⟩
    exact ⟨⟨_, hmem, text, rfl, htext⟩, hne⟩

variable {matchers before after : List Matcher} {m : Matcher} {content token : String}

theorem extractTokens_eq_eraseDups (matchers : List Matcher) (content : String) :
    extractTokens matchers content = (matchers.flatMap (tokensOf · content)).eraseDups :=
  firstOccurrences_eq_eraseDups _

theorem extractTokens_nodup (matchers : List Matcher) (content : String) :
    (extractTokens matchers content).Nodup := by
  rw [extractTokens_eq_eraseDups]
  exact nodup_eraseDups _

theorem mem_extractTokens_iff :
    token ∈ extractTokens matchers content ↔ ∃ m ∈ matchers, token ∈ tokensOf m content := by
  rw [extractTokens, mem_firstOccurrences, List.mem_flatMap]

/-- Later matchers add the tokens that earlier ones have not found. -/
theorem extractTokens_append (first second : List Matcher) (content : String) :
    extractTokens (first ++ second) content = extractTokens first content ++
      (extractTokens second content).filter fun token => token ∉ extractTokens first content := by
  simp only [extractTokens_eq_eraseDups, List.flatMap_append, eraseDups_append, List.mem_eraseDups]

/-- A matcher that stands before already adds nothing. -/
theorem extractTokens_insert_of_mem (hm : m ∈ before) (after : List Matcher) (content : String) :
    extractTokens (before ++ m :: after) content = extractTokens (before ++ after) content := by
  have hagain : ∀ token ∈ tokensOf m content, token ∈ before.flatMap (tokensOf · content) :=
    fun token ht => List.mem_flatMap.mpr ⟨m, hm, ht⟩
  rw [extractTokens_eq_eraseDups, extractTokens_eq_eraseDups, List.flatMap_append,
    List.flatMap_cons, eraseDups_of_repeats hagain, ← List.flatMap_append]

/-- The tokens of a text are a union over the matchers, in order and without repetition. A token is
what some matcher captures, without the white space around it. -/
theorem extractTokens_unites (content : String) :
    (∀ first second, extractTokens (first ++ second) content = extractTokens first content ++
        (extractTokens second content).filter
          fun token => token ∉ extractTokens first content) ∧
      (∀ m, extractTokens [m] content = (tokensOf m content).eraseDups) ∧
      (∀ matchers token, token ∈ extractTokens matchers content ↔
        token ≠ "" ∧ ∃ m ∈ matchers, ∃ text, some text ∈ m content ∧ trimmed text = token) ∧
      (∀ matchers, (extractTokens matchers content).Nodup ∧
        ∀ token ∈ extractTokens matchers content, token ≠ "" ∧ Stripped token) ∧
      (∀ matchers m, extractTokens matchers content <+: extractTokens (matchers ++ [m]) content) ∧
      ∀ before m after, m ∈ before →
        extractTokens (before ++ m :: after) content = extractTokens (before ++ after) content := by
  have hfound : ∀ matchers token, token ∈ extractTokens matchers content ↔
      token ≠ "" ∧ ∃ m ∈ matchers, ∃ text, some text ∈ m content ∧ trimmed text = token := by
    intro matchers token
    simp only [mem_extractTokens_iff, mem_tokensOf_iff]
    constructor
    · rintro ⟨m, hm, hne, hcaptured⟩
      exact ⟨hne, m, hm, hcaptured⟩
    · rintro ⟨hne, m, hm, hcaptured⟩
      exact ⟨m, hm, hne, hcaptured⟩
  refine ⟨fun first second => extractTokens_append first second content, fun m => ?_, hfound,
    fun matchers => ⟨extractTokens_nodup matchers content, fun token ht => ?_⟩,
    fun matchers m => ?_, fun before m after hm => extractTokens_insert_of_mem hm after content⟩
  · rw [extractTokens_eq_eraseDups, List.flatMap_singleton]
  · obtain ⟨hne, m, _, text, _, rfl⟩ := (hfound matchers token).mp ht
    exact ⟨hne, stripped_trimmed text⟩
  · rw [extractTokens_append]
    exact List.prefix_append _ _

/-- The second matcher finds a token of the first one again, with other white space around it, and
one that is new. Repeating the first matcher behind it does nothing. -/
theorem extractTokens_unites_spaced :
    let first : Matcher := fun _ => [some " b ", none, some "a", some " \t", some "b"]
    let second : Matcher := fun _ => [some "\na", some "c "]
    extractTokens [first, second] "" = ["b", "a", "c"] ∧
      "c" ∈ extractTokens [second] "" ∧ "c" ≠ "" ∧ Stripped "c" ∧
      first ∈ [first, second] ∧ extractTokens [first, second, first] "" = ["b", "a", "c"] := by
  intro first second
  obtain ⟨hunion, hone, hfound, hclean, _, hagain⟩ := extractTokens_unites ""
  have hsecond : extractTokens [second] "" = ["a", "c"] := by
    rw [hone]
    decide
  have hboth : extractTokens [first, second] "" = ["b", "a", "c"] := by
    have hfirst : extractTokens [first] "" = ["b", "a"] := by
      rw [hone]
      decide
    rw [← List.singleton_append, hunion, hfirst, hsecond]
    decide
  have hmem : "c" ∈ extractTokens [second] "" := by simp [hsecond]
  obtain ⟨hne, hstripped⟩ := (hclean [second]).2 "c" hmem
  exact ⟨hboth, hmem, hne, hstripped, .head _,
    (hagain [first, second] first [] (.head _)).trans hboth⟩

end ImportSurvey
