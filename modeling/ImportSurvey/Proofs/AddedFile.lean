import ImportSurvey.Proofs.Resolution

namespace ImportSurvey.Resolver

/-- The same resolver in a tree with one more file. -/
def addFile (r : Resolver) (file : String) : Resolver := { r with files := r.files.insert file }

/-- The file is a candidate of the path, followed by `later`, and no file is preferred to it. -/
def Yields (r : Resolver) (path file : String) (later : List String) : Prop :=
  ∃ front, r.candidates path = front ++ file :: later ∧ ∀ c ∈ front, c ≠ file ∧ c ∉ r.files

/-- The token leads to `path`, which yields the file. -/
def Gains (r : Resolver) (file token folder path : String) (later : List String) : Prop :=
  (∃ start rel, r.Joins token folder start rel ∧ Path.join? start rel = some path) ∧
    r.Yields path file later

/-- All that one more file can do to the answer for a token in a folder. -/
structure AnswersWith (r : Resolver) (file token folder : String) : Prop where
  /-- The answer stays, or it becomes the file, where it was a path without a file or a candidate
  that the file is preferred to. -/
  kept_or_gained : (r.addFile file).resolve? token folder = r.resolve? token folder ∨
    (r.addFile file).resolve? token folder = some ⟨file, .resolved⟩ ∧
      ∃ path later, r.Gains file token folder path later ∧
        (r.resolve? token folder = some ⟨path, .unresolved⟩ ∨
          ∃ c ∈ later, r.resolve? token folder = some ⟨c, .resolved⟩)
  /-- Which of the two happens depends on whether a preferred candidate is a file. -/
  gained_iff : (r.addFile file).resolve? token folder = some ⟨file, .resolved⟩ ↔
    ∃ path later, r.Gains file token folder path later
  none_iff : (r.addFile file).resolve? token folder = none ↔ r.resolve? token folder = none
  external_iff : ∀ target, (r.addFile file).resolve? token folder = some ⟨target, .external⟩ ↔
    r.resolve? token folder = some ⟨target, .external⟩
  /-- What is resolved stays resolved, and to the same file or to the new one. -/
  resolved : ∀ found, r.resolve? token folder = some ⟨found, .resolved⟩ →
    (r.addFile file).resolve? token folder = some ⟨found, .resolved⟩ ∨
      (r.addFile file).resolve? token folder = some ⟨file, .resolved⟩

variable {r : Resolver} {file token folder path : String}

theorem mem_files_addFile {c : String} :
    c ∈ (r.addFile file).files ↔ c = file ∨ c ∈ r.files := by
  rw [addFile, Std.HashSet.mem_insert, beq_iff_eq, eq_comm]

theorem joins_addFile_iff {start rel : String} :
    (r.addFile file).Joins token folder start rel ↔ r.Joins token folder start rel := by
  constructor
  · rintro (hr | ⟨hr, ha, hl⟩)
    · exact .relative hr
    · exact .aliased hr ha hl
  · rintro (hr | ⟨hr, ha, hl⟩)
    · exact .relative hr
    · exact .aliased hr ha hl

theorem locate_addFile_iff :
    (r.addFile file).locate path = ⟨file, .resolved⟩ ↔ ∃ later, r.Yields path file later := by
  constructor
  · intro h
    have hmeaning := (r.addFile file).meaning_locate path
    rw [h] at hmeaning
    cases hmeaning with
    | file hsplit _ hbefore =>
      refine ⟨_, _, hsplit, fun c hc => not_or.mp fun hmem => ?_⟩
      exact hbefore c hc (mem_files_addFile.mpr hmem)
  · rintro ⟨later, front, hsplit, hfront⟩
    refine locate_of_meaning (.file hsplit (mem_files_addFile.mpr (.inl rfl)) fun c hc hmem => ?_)
    exact (mem_files_addFile.mp hmem).elim (hfront c hc).1 (hfront c hc).2

/-- Before the file is there, its path means nothing or one of the later candidates. -/
theorem locate_of_yields {later : List String} (h : r.Yields path file later) :
    r.locate path = ⟨path, .unresolved⟩ ∨
      ∃ c ∈ file :: later, r.locate path = ⟨c, .resolved⟩ := by
  obtain ⟨front, hsplit, hfront⟩ := h
  have hmeaning := r.meaning_locate path
  generalize r.locate path = found at hmeaning ⊢
  cases hmeaning with
  | nothing => exact .inl rfl
  | @file before after c hcandidates hfile _ =>
    have hmem : c ∈ front ++ file :: later := by simp [← hsplit, hcandidates]
    exact .inr ⟨c, (List.mem_append.mp hmem).resolve_left fun hc => (hfront c hc).2 hfile, rfl⟩

/-- The file stands first somewhere among candidates that are no files yet. -/
theorem exists_yields {front later : List String} (hsplit : r.candidates path = front ++ later)
    (hfront : ∀ c ∈ front, c ∉ r.files) (h : file ∈ front) : ∃ later, r.Yields path file later := by
  obtain ⟨outer, inner, rfl, houter⟩ := List.eq_append_cons_of_mem h
  refine ⟨inner ++ later, outer, by simp [hsplit], fun c hc => ⟨?_, hfront c (by simp [hc])⟩⟩
  rintro rfl
  exact houter hc

theorem locate_addFile_of_not_yields (h : ∀ later, ¬r.Yields path file later) :
    (r.addFile file).locate path = r.locate path := by
  have hnew : ∀ front later, r.candidates path = front ++ later → (∀ c ∈ front, c ∉ r.files) →
      ∀ c ∈ front, c ∉ (r.addFile file).files := by
    intro front later hsplit hfront c hc hmem
    rcases mem_files_addFile.mp hmem with rfl | hmem
    · obtain ⟨later, hyields⟩ := exists_yields hsplit hfront hc
      exact h later hyields
    · exact hfront c hc hmem
  have hmeaning := r.meaning_locate path
  generalize r.locate path = found at hmeaning ⊢
  apply locate_of_meaning
  cases hmeaning with
  | file hsplit hfile hbefore =>
    exact .file hsplit (mem_files_addFile.mpr (.inr hfile)) (hnew _ _ hsplit hbefore)
  | nothing hnone => exact .nothing (hnew _ [] (List.append_nil _).symm hnone)

theorem answersWith_of_external (h : r.External token) : r.AnswersWith file token folder := by
  have hexternal := resolve?_of_external folder h
  have hafter := resolve?_of_external (r := r.addFile file) folder h
  have hsame := hafter.trans hexternal.symm
  refine ⟨.inl hsame, ?_, by rw [hsame], fun _ => by rw [hsame], fun _ hf => .inl (hsame ▸ hf)⟩
  refine iff_of_false (by simp [hafter]) ?_
  rintro ⟨_, _, ⟨_, _, hj, _⟩, _⟩
  exact not_external_of_joins hj h

theorem resolve?_addFile_of_joins {start rel : String} (h : r.Joins token folder start rel) :
    (r.addFile file).resolve? token folder =
      (Path.join? start rel).map (r.addFile file).locate :=
  resolve?_of_joins (joins_addFile_iff.mpr h)

theorem resolve?_addFile_of_gains {later : List String}
    (h : r.Gains file token folder path later) :
    (r.addFile file).resolve? token folder = some ⟨file, .resolved⟩ := by
  obtain ⟨⟨start, rel, hj, hp⟩, hy⟩ := h
  rw [resolve?_addFile_of_joins hj, hp, Option.map_some, locate_addFile_iff.mpr ⟨later, hy⟩]

theorem answersWith_of_path {start rel : String} (h : r.Joins token folder start rel)
    (hp : Path.join? start rel = some path) : r.AnswersWith file token folder := by
  have hbefore : r.resolve? token folder = some (r.locate path) := by
    rw [resolve?_of_joins h, hp, Option.map_some]
  have hafter : (r.addFile file).resolve? token folder = some ((r.addFile file).locate path) := by
    rw [resolve?_addFile_of_joins h, hp, Option.map_some]
  have hcases : (r.addFile file).locate path = r.locate path ∨
      ∃ later, r.Yields path file later := by
    by_cases hy : ∃ later, r.Yields path file later
    · exact .inr hy
    · exact .inl (locate_addFile_of_not_yields (not_exists.mp hy))
  refine ⟨?_, ⟨fun hg => ?_, fun ⟨_, _, hg⟩ => resolve?_addFile_of_gains hg⟩,
    by simp [hbefore, hafter], ?_, ?_⟩
  · rw [hbefore, hafter]
    rcases hcases with hsame | ⟨later, hy⟩
    · exact .inl (congrArg some hsame)
    · have hnew := locate_addFile_iff.mpr ⟨later, hy⟩
      have hgains : r.Gains file token folder path later := ⟨⟨start, rel, h, hp⟩, hy⟩
      rcases locate_of_yields hy with hnone | ⟨c, hc, hfound⟩
      · exact .inr ⟨congrArg some hnew, path, later, hgains, .inl (congrArg some hnone)⟩
      rcases List.mem_cons.mp hc with rfl | hc
      · exact .inl (congrArg some (hnew.trans hfound.symm))
      · exact .inr ⟨congrArg some hnew, path, later, hgains, .inr ⟨c, hc, congrArg some hfound⟩⟩
  · obtain ⟨later, hy⟩ := locate_addFile_iff.mp (Option.some.inj (hafter.symm.trans hg))
    exact ⟨path, later, ⟨start, rel, h, hp⟩, hy⟩
  · intro target
    simp [hbefore, hafter, locate_ne_external]
  · intro found hf
    rw [hbefore] at hf
    rw [hafter]
    rcases hcases with hsame | hy
    · exact .inl (hsame ▸ hf)
    · exact .inr (congrArg some (locate_addFile_iff.mpr hy))

/-- One more file changes an answer only to this file, and only if no preferred candidate is a file
already. -/
theorem resolve?_addFile (r : Resolver) (file token folder : String) :
    r.AnswersWith file token folder := by
  rcases r.external_or_joins token folder with he | ⟨start, rel, hj⟩
  · exact answersWith_of_external he
  cases hp : Path.join? start rel with
  | some path => exact answersWith_of_path hj hp
  | none =>
    have hbefore : r.resolve? token folder = none := by rw [resolve?_of_joins hj, hp]; rfl
    have hafter : (r.addFile file).resolve? token folder = none := by
      rw [resolve?_addFile_of_joins hj, hp]
      rfl
    have hsame := hafter.trans hbefore.symm
    refine ⟨.inl hsame, ⟨fun hg => ?_, fun ⟨_, _, hg⟩ => resolve?_addFile_of_gains hg⟩,
      by rw [hsame], fun _ => by rw [hsame], fun _ hf => .inl (hsame ▸ hf)⟩
    simp [hafter] at hg

end ImportSurvey.Resolver
