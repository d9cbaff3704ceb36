import ImportSurvey.Path.Basic

namespace ImportSurvey.Path

theorem ofSegments_toList (segs : List String) :
    (ofSegments segs).toList = ['/'].intercalate (segs.map String.toList) := by
  rw [ofSegments, String.toList_intercalate]
  rfl

@[simp]
theorem segments_ne_nil (path : String) : segments path ≠ [] := by
  simp [segments]

@[simp]
theorem ofSegments_segments (path : String) : ofSegments (segments path) = path := by
  apply String.toList_inj.mp
  simp [ofSegments_toList, segments, Function.comp_def]

theorem splitOn_free {mark : Char} {text piece : List Char} (h : piece ∈ text.splitOn mark) :
    mark ∉ piece := by
  induction text generalizing piece with
  | nil => simp_all
  | cons c rest ih =>
    rw [List.splitOn_cons_eq_if_modifyHead] at h
    split at h
    next hc =>
      rcases List.mem_cons.mp h with rfl | h
      · simp
      · exact ih h
    next hc =>
      obtain ⟨first, others, hsplit⟩ := List.exists_cons_of_ne_nil (List.splitOn_ne_nil mark rest)
      rw [hsplit] at h ih
      rcases List.mem_cons.mp h with rfl | h
      · have hfirst := ih List.mem_cons_self
        have hne : mark ≠ c := fun e => hc (by simp [e])
        simp [hfirst, hne]
      · exact ih (List.mem_cons_of_mem _ h)

/-- No slash is left in a segment. -/
theorem slash_not_mem_of_mem_segments {path segment : String} (h : segment ∈ segments path) :
    '/' ∉ segment.toList := by
  obtain ⟨piece, hp, rfl⟩ := List.mem_map.mp h
  simpa using splitOn_free hp

theorem slash_not_mem_of_segments_append {path : String} {front back : List String}
    (h : segments path = front ++ back) : ∀ s ∈ front, '/' ∉ s.toList := fun _ hs =>
  slash_not_mem_of_mem_segments (h ▸ List.mem_append_left back hs)

theorem segments_ofSegments {segs : List String} (hne : segs ≠ [])
    (free : ∀ s ∈ segs, '/' ∉ s.toList) : segments (ofSegments segs) = segs := by
  have hfree : ∀ piece ∈ segs.map String.toList, '/' ∉ piece := by
    intro piece hp
    obtain ⟨s, hs, rfl⟩ := List.mem_map.mp hp
    exact free s hs
  rw [segments, ofSegments_toList, List.splitOn_intercalate _ hfree (by simpa using hne)]
  simp [Function.comp_def]

theorem segments_of_not_mem {name : String} (h : '/' ∉ name.toList) : segments name = [name] := by
  simp [segments, List.splitOn_eq_singleton h]

@[simp]
theorem segments_append_slash (before after : String) :
    segments (before ++ "/" ++ after) = segments before ++ segments after := by
  have hcut : (before ++ "/" ++ after).toList = before.toList ++ '/' :: after.toList := by simp
  rw [segments, hcut, List.splitOn_append_cons_self, List.map_append]
  rfl

theorem segments_injective {p q : String} (h : segments p = segments q) : p = q := by
  rw [← ofSegments_segments p, h, ofSegments_segments]

theorem ofSegments_append {front back : List String} (hf : front ≠ []) (hb : back ≠ []) :
    ofSegments (front ++ back) = ofSegments front ++ "/" ++ ofSegments back :=
  String.intercalate_append_of_ne_nil hf hb

theorem ofSegments_cons (segment : String) {rest : List String} (hne : rest ≠ []) :
    ofSegments (segment :: rest) = segment ++ "/" ++ ofSegments rest := by
  have hone : ofSegments [segment] = segment := String.intercalate_singleton
  rw [← List.singleton_append, ofSegments_append (List.cons_ne_nil _ _) hne, hone]

/-- One path continues the segments of another if it continues the text behind a slash. -/
theorem segments_prefix_iff {folder path : String} :
    segments folder <+: segments path ↔ path = folder ∨ (folder ++ "/").toList <+: path.toList := by
  constructor
  · rintro ⟨rest, h⟩
    by_cases hrest : rest = []
    · left
      exact segments_injective (by simp [← h, hrest])
    · right
      have hpath : path = folder ++ "/" ++ ofSegments rest := by
        rw [← ofSegments_segments path, ← h, ofSegments_append (segments_ne_nil folder) hrest,
          ofSegments_segments]
      exact ⟨(ofSegments rest).toList, by rw [hpath, ← String.toList_append]⟩
  · rintro (rfl | ⟨tail, h⟩)
    · exact List.prefix_refl _
    · have hpath : path = folder ++ "/" ++ String.ofList tail := by
        apply String.toList_inj.mp
        rw [← h, String.toList_append (s := folder ++ "/"), String.toList_ofList]
      rw [hpath, segments_append_slash]
      exact List.prefix_append _ _

/-- A name behind a path goes on in its last segment. -/
theorem segments_append_name {path last name : String} {front : List String}
    (h : segments path = front ++ [last]) (hname : '/' ∉ name.toList) :
    segments (path ++ name) = front ++ [last ++ name] := by
  have hmem : ∀ s ∈ front ++ [last], '/' ∉ s.toList := fun s hs =>
    slash_not_mem_of_mem_segments (h ▸ hs)
  have hlast : '/' ∉ (last ++ name).toList := by simp [hmem, hname]
  have hpath : path ++ name = ofSegments (front ++ [last ++ name]) := by
    rw [← ofSegments_segments path, h]
    by_cases hf : front = []
    · simp [hf, ofSegments, String.intercalate_singleton]
    · rw [ofSegments_append hf (List.cons_ne_nil _ _), ofSegments_append hf (List.cons_ne_nil _ _)]
      simp [ofSegments, String.intercalate_singleton, String.append_assoc]
  rw [hpath, segments_ofSegments (by simp)]
  intro s hs
  rcases List.mem_append.mp hs with hs | hs
  · exact hmem s (List.mem_append_left _ hs)
  · rwa [List.mem_singleton.mp hs]

/-- Behind a slash, or behind nothing, segments are added as they are. -/
theorem segments_append_of_open {path : String} {front : List String}
    (h : segments path = front ++ [""]) (rest : String) :
    segments (path ++ rest) = front ++ segments rest := by
  have hfree := slash_not_mem_of_segments_append h
  by_cases hf : front = []
  · have hpath : path = "" := by
      rw [← ofSegments_segments path, h, hf]
      rfl
    simp [hpath, hf]
  · have hpath : path = ofSegments front ++ "/" := by
      rw [← ofSegments_segments path, h, ofSegments_append hf (List.cons_ne_nil _ _)]
      simp [ofSegments, String.intercalate_singleton]
    rw [hpath, segments_append_slash, segments_ofSegments hf hfree]

end ImportSurvey.Path
