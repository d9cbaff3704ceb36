import ImportSurvey.Proofs.PathSegments

namespace ImportSurvey.Path

/-- A segment that names something directly in the folder before it. -/
def Ordinary (segment : String) : Prop := segment ≠ "" ∧ segment ≠ "." ∧ segment ≠ ".."

instance : DecidablePred Ordinary := fun _ => inferInstanceAs (Decidable (_ ∧ _))

/-- A path that cannot lead out of the base folder: the base folder itself, or ordinary segments
with slashes between them. -/
def Normal (path : String) : Prop := path = root ∨ ∀ s ∈ segments path, Ordinary s

instance (path : String) : Decidable (Normal path) := inferInstanceAs (Decidable (_ ∨ _))

theorem ne_empty_of_normal {path : String} (h : Normal path) : path ≠ "" := by
  intro hempty
  have hnot : ¬Normal "" := by decide
  exact hnot (hempty ▸ h)

/-- At some point more segments have climbed than have led down. -/
def Climbs (segs : List String) : Prop :=
  ∃ n, (segs.take n).countP (Ordinary ·) < (segs.take n).count ".."

theorem step?_idle {s : String} (trail : List String) (h : s = "" ∨ s = ".") :
    step? trail s = some trail := by
  simp [step?, h]

@[simp]
theorem step?_climb_nil : step? [] ".." = none := by
  simp [step?]

@[simp]
theorem step?_climb_cons (s : String) (outer : List String) :
    step? (s :: outer) ".." = some outer := by
  simp [step?]

theorem step?_ordinary {s : String} (trail : List String) (h : Ordinary s) :
    step? trail s = some (s :: trail) := by
  simp [step?, h.1, h.2.1, h.2.2]

theorem segment_cases (s : String) : (s = "" ∨ s = ".") ∨ s = ".." ∨ Ordinary s := by
  unfold Ordinary
  by_cases h1 : s = "" <;> by_cases h2 : s = "." <;> by_cases h3 : s = ".." <;> simp_all

theorem not_ordinary_of_idle {s : String} (h : s = "" ∨ s = ".") : ¬Ordinary s := by
  rcases h with rfl | rfl <;> simp [Ordinary]

theorem foldlM_step?_eq_none_iff {trail segs : List String} :
    segs.foldlM step? trail = none ↔
      ∃ n, trail.length + (segs.take n).countP (Ordinary ·) < (segs.take n).count ".." := by
  induction segs generalizing trail with
  | nil => simp
  | cons s rest ih =>
    have later : (∃ n, trail.length + ((s :: rest).take n).countP (Ordinary ·) <
          ((s :: rest).take n).count "..") ↔
        ∃ n, trail.length + ((s :: rest).take (n + 1)).countP (Ordinary ·) <
          ((s :: rest).take (n + 1)).count ".." := by
      rw [← Nat.or_exists_add_one]
      simp
    rw [later, List.foldlM_cons]
    rcases segment_cases s with h | rfl | h
    · have hne : s ≠ ".." := by rcases h with rfl | rfl <;> decide
      simp [step?_idle trail h, ih, not_ordinary_of_idle h, hne]
    · have hn : ¬Ordinary ".." := by decide
      cases trail with
      | nil =>
        refine iff_of_true (by simp) ⟨0, ?_⟩
        simp [hn]
      | cons top outer =>
        simp only [step?_climb_cons, Option.bind_eq_bind, Option.bind_some, ih,
          List.take_succ_cons, List.countP_cons, List.count_cons, hn, List.length_cons]
        exact exists_congr fun n => by simp; omega
    · have hne : s ≠ ".." := h.2.2
      simp only [step?_ordinary trail h, Option.bind_eq_bind, Option.bind_some, ih,
        List.take_succ_cons, List.countP_cons, List.count_cons, h, List.length_cons]
      exact exists_congr fun n => by simp [hne]; omega

/-- Joining fails for paths that climb above the base folder, and only for these. -/
theorem join?_eq_none_iff {folder rel : String} :
    join? folder rel = none ↔ Climbs (segments folder ++ segments rel) := by
  rw [join?, Option.map_eq_none_iff, foldlM_step?_eq_none_iff]
  simp [Climbs]

theorem mem_of_foldlM_step? {trail segs out : List String} (h : segs.foldlM step? trail = some out)
    {s : String} (hs : s ∈ out) : s ∈ trail ∨ s ∈ segs ∧ Ordinary s := by
  induction segs generalizing trail with
  | nil =>
    cases Option.some.inj h
    exact .inl hs
  | cons first rest ih =>
    rw [List.foldlM_cons] at h
    obtain ⟨next, hn, h⟩ := Option.bind_eq_some_iff.mp h
    rcases ih h with ht | ht
    · rcases segment_cases first with hf | rfl | hf
      · rw [step?_idle trail hf] at hn
        cases Option.some.inj hn
        exact .inl ht
      · cases trail with
        | nil => simp at hn
        | cons top outer =>
          rw [step?_climb_cons] at hn
          cases Option.some.inj hn
          exact .inl (List.mem_cons_of_mem _ ht)
      · rw [step?_ordinary trail hf] at hn
        cases Option.some.inj hn
        rcases List.mem_cons.mp ht with rfl | ht
        · exact .inr ⟨List.mem_cons_self, hf⟩
        · exact .inl ht
    · exact .inr ⟨List.mem_cons_of_mem _ ht.1, ht.2⟩

theorem segments_ofTrail {trail : List String} (hne : trail ≠ [])
    (free : ∀ s ∈ trail, '/' ∉ s.toList) : segments (ofTrail trail) = trail.reverse := by
  cases trail with
  | nil => exact absurd rfl hne
  | cons s outer =>
    exact segments_ofSegments (by simp) (fun t ht => free t (List.mem_reverse.mp ht))

/-- The folder that segments lead down to from the base folder. -/
def ofDescent (segs : List String) : String := if segs = [] then root else ofSegments segs

theorem ofTrail_eq_ofDescent (trail : List String) : ofTrail trail = ofDescent trail.reverse := by
  cases trail <;> simp [ofTrail, ofDescent]

theorem ofTrail_reverse_segments (path : String) : ofTrail (segments path).reverse = path := by
  rw [ofTrail_eq_ofDescent, List.reverse_reverse, ofDescent, if_neg (segments_ne_nil path),
    ofSegments_segments]

theorem normal_ofTrail {trail : List String}
    (h : ∀ s ∈ trail, '/' ∉ s.toList ∧ Ordinary s) : Normal (ofTrail trail) := by
  by_cases hne : trail = []
  · exact .inl (by rw [hne]; rfl)
  · right
    rw [segments_ofTrail hne (fun s hs => (h s hs).1)]
    intro s hs
    exact (h s (List.mem_reverse.mp hs)).2

/-- A joined path has normal form, whatever was joined. -/
theorem normal_of_join? {folder rel path : String} (h : join? folder rel = some path) :
    Normal path := by
  obtain ⟨trail, ht, rfl⟩ := Option.map_eq_some_iff.mp h
  apply normal_ofTrail
  intro s hs
  obtain ⟨hmem, hord⟩ := (mem_of_foldlM_step? ht hs).resolve_left (by simp)
  refine ⟨?_, hord⟩
  rcases List.mem_append.mp hmem with hmem | hmem
  · exact slash_not_mem_of_mem_segments hmem
  · exact slash_not_mem_of_mem_segments hmem

theorem foldlM_step?_ordinary {segs : List String} (trail : List String)
    (h : ∀ s ∈ segs, Ordinary s) : segs.foldlM step? trail = some (segs.reverse ++ trail) := by
  induction segs generalizing trail with
  | nil => rfl
  | cons s rest ih =>
    have hs : Ordinary s := h s List.mem_cons_self
    rw [List.foldlM_cons, step?_ordinary trail hs]
    simpa using ih (s :: trail) fun t ht => h t (List.mem_cons_of_mem _ ht)

/-- Where segments have led, the path of that place leads as well. -/
theorem foldlM_step?_segments_ofTrail {segs trail : List String}
    (free : ∀ s ∈ segs, '/' ∉ s.toList) (h : segs.foldlM step? [] = some trail) :
    (segments (ofTrail trail)).foldlM step? [] = some trail := by
  have hmem : ∀ s ∈ trail, s ∈ segs ∧ Ordinary s := fun s hs =>
    (mem_of_foldlM_step? h hs).resolve_left (by simp)
  by_cases hne : trail = []
  · subst hne
    decide
  · have hsegs := segments_ofTrail hne fun s hs => free s (hmem s hs).1
    have hord : ∀ s ∈ trail.reverse, Ordinary s := fun s hs =>
      (hmem s (List.mem_reverse.mp hs)).2
    rw [hsegs, foldlM_step?_ordinary [] hord]
    simp

/-- The segments of a join without the empty ones and the dots: those of the folder, then those of
the path that is joined onto it. -/
def directions (folder rel : String) : List String :=
  (segments folder ++ segments rel).filter fun s => s ≠ "" ∧ s ≠ "."

/-- Empty segments and dots have no part in a join. -/
theorem join?_eq_directions (folder rel : String) :
    join? folder rel = ((directions folder rel).foldlM step? []).map ofTrail := by
  rw [join?, directions, List.foldlM_filter]
  congr 2
  funext trail s
  split
  next => rfl
  next hs => exact step?_idle trail (by simpa [Decidable.or_iff_not_imp_left] using hs)

/-- The segments of a path that have a part in a join. -/
def moves (path : String) : List String := (segments path).filter fun s => s ≠ "" ∧ s ≠ "."

theorem moves_append_slash (before after : String) :
    moves (before ++ "/" ++ after) = moves before ++ moves after := by
  rw [moves, segments_append_slash, List.filter_append]
  rfl

theorem directions_eq_moves (folder rel : String) :
    directions folder rel = moves folder ++ moves rel :=
  List.filter_append ..

theorem join?_congr {folder folder' rel rel' : String} (hfolder : moves folder = moves folder')
    (hrel : moves rel = moves rel') : join? folder rel = join? folder' rel' := by
  rw [join?_eq_directions, directions_eq_moves, hfolder, hrel, ← directions_eq_moves,
    ← join?_eq_directions]

/-- Joining onto a joined path is joining once, with a slash in between. -/
theorem join?_join? {base target folder : String} (h : join? base target = some folder)
    (rest : String) : join? folder rest = join? base (target ++ "/" ++ rest) := by
  obtain ⟨trail, htrail, rfl⟩ := Option.map_eq_some_iff.mp h
  have hfree : ∀ s ∈ segments base ++ segments target, '/' ∉ s.toList := fun s hs =>
    (List.mem_append.mp hs).elim slash_not_mem_of_mem_segments slash_not_mem_of_mem_segments
  have hfolder := foldlM_step?_segments_ofTrail hfree htrail
  rw [join?, join?, segments_append_slash, ← List.append_assoc, List.foldlM_append,
    List.foldlM_append, hfolder, htrail]

theorem join?_append_of_none {base target : String} (h : join? base target = none)
    (rest : String) : join? base (target ++ "/" ++ rest) = none := by
  have hfold := Option.map_eq_none_iff.mp h
  rw [join?, segments_append_slash, ← List.append_assoc, List.foldlM_append, hfold]
  rfl

/-- A path of normal form is where it leads from the base folder. -/
theorem join?_root_of_normal {path : String} (h : Normal path) : join? root path = some path := by
  rcases h with rfl | h
  · decide
  · have hroot : (segments root).foldlM step? [] = some [] := by decide
    rw [join?, List.foldlM_append, hroot, Option.bind_eq_bind, Option.bind_some,
      foldlM_step?_ordinary [] h, Option.map_some, List.append_nil, ofTrail_reverse_segments]

/-- Joining in two steps is joining once, also where the first step fails, and the joined paths are
those that joining onto the base folder leaves alone. -/
theorem join?_composes (folder first second : String) :
    (∀ path, join? folder first = some path →
        join? path second = join? folder (first ++ "/" ++ second)) ∧
      (join? folder first = none → join? folder (first ++ "/" ++ second) = none) ∧
      ∀ path, (∃ folder rel, join? folder rel = some path) ↔ join? root path = some path := by
  refine ⟨fun path h => join?_join? h second, fun h => join?_append_of_none h second, ?_⟩
  intro path
  constructor
  · rintro ⟨folder, rel, h⟩
    exact join?_root_of_normal (normal_of_join? h)
  · intro h
    exact ⟨root, path, h⟩

/-- The first step ends in the base folder, whose dot has no part in the second; from there a
further climb fails, and going down again behind it does not help. -/
theorem join?_composes_detour :
    join? "a//b" "./../.." = some "." ∧ join? "." "c/./d" = join? "a//b" "./../../c/./d" ∧
      join? "a//b" "./../../.." = none ∧ join? "a//b" "./../../../a/b" = none ∧
      join? "." "." = some "." := by
  have hbase : join? "a//b" "./../.." = some "." := by decide
  have hfails : join? "a//b" "./../../.." = none := by decide
  exact ⟨hbase, (join?_composes "a//b" "./../.." "c/./d").1 "." hbase, hfails,
    (join?_composes "a//b" "./../../.." "a/b").2.1 hfails,
    ((join?_composes "a//b" "" "").2.2 ".").mp ⟨_, _, hbase⟩⟩

end ImportSurvey.Path
