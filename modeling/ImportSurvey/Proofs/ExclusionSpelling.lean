import ImportSurvey.Proofs.SurveyExclusion

namespace ImportSurvey

namespace Path

/-- What a path of normal form lies in, other than the base folder, is of normal form too. -/
theorem normal_of_within {path folder : String} (h : Normal path) (hroot : folder ≠ root)
    (hw : within path folder) : Normal folder := by
  rcases h with rfl | h
  · exact absurd hw (not_within_root hroot)
  · exact .inr fun s hs => h s (((within_iff_segments hroot).mp hw).subset hs)

end Path

namespace Survey

variable {s : Survey} {text path : String}

theorem join?_cleanExclusion (folder text : String) :
    Path.join? folder (cleanExclusion text) = Path.join? folder text :=
  Path.join?_congr rfl (Alias.moves_dropTrailing_dropDotSlashes text)

/-- Cleaning understands the decorations of a path and no other spelling of it. -/
theorem cleanExclusion_eq_iff (h : Path.Normal path) (hroot : path ≠ Path.root) :
    cleanExclusion text = path ↔
      ∃ front back, text.toList = Path.decorated front path.toList back := by
  constructor
  · rintro rfl
    obtain ⟨front, back, htext⟩ := Alias.exists_decorated text.toList
    exact ⟨front, back, by rw [cleanExclusion, String.toList_ofList, ← htext]⟩
  · rintro ⟨front, back, htext⟩
    rw [cleanExclusion, htext, Alias.dropTrailing_decorated h hroot, String.ofList_toList]

/-- The only path of normal form that cleaning can leave is the one to which the text leads. -/
theorem normal_cleanExclusion_iff (h : Path.join? Path.root text = some path) :
    Path.Normal (cleanExclusion text) ↔ cleanExclusion text = path := by
  have hclean := (join?_cleanExclusion Path.root text).trans h
  constructor
  · intro hnormal
    exact Option.some.inj ((Path.join?_root_of_normal hnormal).symm.trans hclean)
  · intro heq
    rw [heq]
    exact Path.normal_of_join? h

theorem outside_of_not_normal (h : ¬Path.Normal (cleanExclusion text)) {other : String}
    (hother : Path.Normal other) : outside [text] other := by
  rw [outside_iff]
  intro e he hw
  obtain ⟨⟨_, hroot⟩, excluded, hmem, rfl⟩ := mem_exclusions_iff.mp he
  rw [List.mem_singleton.mp hmem] at hroot hw
  exact h (Path.normal_of_within hother hroot hw)

/-- An exclusion does what it says or nothing at all: it counts as the path to which it leads if that
is what cleaning leaves of it. -/
theorem without_singleton (h : Path.join? Path.root text = some path)
    (normal : ∀ other ∈ s.shown, Path.Normal other) :
    s.without [text] = if cleanExclusion text = path then s.without [path] else s := by
  have hpath := Path.normal_of_join? h
  split
  next heq =>
    have hsame : exclusions [text] = exclusions [path] := by
      rw [exclusions, exclusions, List.map_singleton, List.map_singleton, heq,
        cleanExclusion_of_normal hpath]
    simp only [without, hsame]
  next hne =>
    exact only_eq_self_iff.mpr fun other ho =>
      outside_of_not_normal (mt (normal_cleanExclusion_iff h).mp hne) (normal other ho)

theorem outside_singleton_iff (h : Path.Normal path) {other : String} :
    outside [path] other ↔ path = Path.root ∨ ¬Path.within other path := by
  have hne := Path.ne_empty_of_normal h
  simp only [outside_iff, mem_exclusions_iff, List.mem_singleton, exists_eq_left,
    cleanExclusion_of_normal h]
  constructor
  · intro hout
    by_cases hroot : path = Path.root
    · exact .inl hroot
    · exact .inr (hout path ⟨⟨hne, hroot⟩, rfl⟩)
  · rintro hor e ⟨⟨_, hroot⟩, rfl⟩
    exact hor.resolve_left hroot

/-- Excluding a folder changes nothing if nothing lies in it, or if it is the base folder. -/
theorem without_eq_self_iff (h : Path.Normal path) :
    s.without [path] = s ↔ path = Path.root ∨ ∀ other ∈ s.shown, ¬Path.within other path := by
  simp only [without_eq_only, only_eq_self_iff, outside_singleton_iff h]
  by_cases hroot : path = Path.root
  · simp [hroot]
  · simp [hroot]

/-- A text excludes the folder to which it leads exactly if the folder is written as it is, with `./`
in front or slashes behind, or if there is nothing to exclude: nothing lies in the folder, or it is
the base folder, which is never excluded. Any other text leaves the survey as it is. -/
theorem without_spelling_iff (h : Path.join? Path.root text = some path)
    (normal : ∀ other ∈ s.shown, Path.Normal other) :
    (s.without [text] = s.without [path] ↔
        (∃ front back, text.toList = Path.decorated front path.toList back) ∨
          path = Path.root ∨ ∀ other ∈ s.shown, ¬Path.within other path) ∧
      ((¬∃ front back, text.toList = Path.decorated front path.toList back) →
        s.without [text] = s) := by
  have hpath := Path.normal_of_join? h
  have hidle : s.without [path] = s ↔
      path = Path.root ∨ ∀ other ∈ s.shown, ¬Path.within other path := without_eq_self_iff hpath
  rw [without_singleton h normal, ← hidle]
  by_cases hroot : path = Path.root
  · have hkept : (if cleanExclusion text = path then s.without [path] else s) = s := by
      rw [hidle.mpr (.inl hroot), ite_self]
    rw [hkept]
    exact ⟨iff_of_true (hidle.mpr (.inl hroot)).symm (.inr (hidle.mpr (.inl hroot))), fun _ => rfl⟩
  · rw [← cleanExclusion_eq_iff hpath hroot]
    split
    next heq => exact ⟨iff_of_true rfl (.inl heq), fun hne => absurd heq hne⟩
    next hne =>
      exact ⟨⟨fun heq => .inr heq.symm, fun hor => (hor.resolve_left hne).symm⟩, fun _ => rfl⟩

/-- A text with a doubled slash leads to the folder, but does not exclude it. -/
theorem without_ne_of_doubled_slash :
    let s : Survey := ⟨"/base", .ofFiles ["src/gen/x.ts", "src/y.ts"],
      ["src/gen/x.ts", "src/y.ts"],
      .ofList [("src/gen/x.ts", .empty), ("src/y.ts", .empty)], []⟩
    Path.join? Path.root "src//gen" = some "src/gen" ∧
      (∀ other ∈ s.shown, Path.Normal other) ∧
      (¬∃ front back, "src//gen".toList = Path.decorated front "src/gen".toList back) ∧
      s.without ["src//gen"] = s ∧ s.without ["src//gen"] ≠ s.without ["src/gen"] := by
  intro s
  have hjoin : Path.join? Path.root "src//gen" = some "src/gen" := by decide
  have hnormal : ∀ other ∈ s.shown, Path.Normal other := by decide
  have hother : ¬∃ front back, "src//gen".toList = Path.decorated front "src/gen".toList back := by
    rw [← cleanExclusion_eq_iff (by decide) (by decide)]
    decide
  obtain ⟨hiff, hkept⟩ := without_spelling_iff hjoin hnormal
  refine ⟨hjoin, hnormal, hother, hkept hother, mt hiff.mp ?_⟩
  rintro (hspelled | hidle)
  · exact hother hspelled
  · revert hidle
    decide

end Survey

end ImportSurvey
