import ImportSurvey.Proofs.PathJoin
import ImportSurvey.Proofs.TextCuts

namespace ImportSurvey.Path

@[simp]
theorem ofSegments_nil : ofSegments [] = "" := rfl

@[simp]
theorem ofSegments_singleton (s : String) : ofSegments [s] = s :=
  String.intercalate_singleton

theorem exists_segments_append (path : String) :
    ∃ front last, segments path = front ++ [last] :=
  ⟨_, _, (List.dropLast_concat_getLast (segments_ne_nil path)).symm⟩

/-- Cutting at the last slash cuts off the last segment. -/
theorem cutLast?_of_segments {path last : String} {front : List String}
    (h : segments path = front ++ [last]) :
    Text.cutLast? '/' path.toList =
      if front = [] then none else some ((ofSegments front).toList, last.toList) := by
  have hmem : last ∈ segments path := by simp [h]
  have hlast : '/' ∉ last.toList := slash_not_mem_of_mem_segments hmem
  split
  next hf =>
    have hpath : path = last := by rw [← ofSegments_segments path, h, hf]; simp
    exact Text.cutLast?_eq_none_iff.mpr (hpath ▸ hlast)
  next hf =>
    have hpath : path = ofSegments front ++ "/" ++ last := by
      rw [← ofSegments_segments path, h, ofSegments_append hf (by simp), ofSegments_singleton]
    exact Text.cutLast?_eq_some_iff.mpr ⟨by rw [hpath]; simp, hlast⟩

theorem leaf_of_segments {path last : String} {front : List String}
    (h : segments path = front ++ [last]) : leaf path = last := by
  unfold leaf
  rw [cutLast?_of_segments h]
  by_cases hf : front = []
  · have hpath : path = last := by rw [← ofSegments_segments path, h, hf]; simp
    simp [hf, hpath]
  · simp [hf]

theorem moduleOf_of_segments {folder last : String} {front : List String}
    (h : segments folder = front ++ [last]) :
    moduleOf folder = if front = [] then folder else ofSegments front := by
  unfold moduleOf
  rw [cutLast?_of_segments h]
  by_cases hf : front = []
  · simp [hf]
  · simp [hf]

theorem parent_of_segments {path last : String} {front : List String}
    (h : segments path = front ++ [last]) :
    parent path = if ofSegments front = "" then root else ofSegments front := by
  unfold parent
  rw [cutLast?_of_segments h]
  by_cases hf : front = []
  · simp [hf]
  · cases hc : (ofSegments front).toList with
    | nil => simp [hf, String.toList_eq_nil_iff.mp hc]
    | cons c rest =>
      have hne : ofSegments front ≠ "" := fun he => by simp [he] at hc
      simp only [hf, hne, if_false]
      rw [← hc, String.ofList_toList]

/-- The folder of a path of normal form is of normal form. -/
theorem normal_parent {path : String} (h : Normal path) : Normal (parent path) := by
  rcases h with rfl | h
  · exact .inl (by decide)
  · obtain ⟨front, last, hs⟩ := exists_segments_append path
    rw [parent_of_segments hs]
    split
    next => exact .inl rfl
    next hne =>
      have hf : front ≠ [] := fun he => hne (by simp [he])
      right
      rw [segments_ofSegments hf (slash_not_mem_of_segments_append hs)]
      intro s hm
      exact h s (hs ▸ List.mem_append_left _ hm)

theorem parent_ne_empty (path : String) : parent path ≠ "" := by
  obtain ⟨front, last, hs⟩ := exists_segments_append path
  rw [parent_of_segments hs]
  split
  next => decide
  next hne => exact hne

/-- The name of a path is a single segment. -/
theorem slash_not_mem_leaf (path : String) : '/' ∉ (leaf path).toList := by
  obtain ⟨front, last, hs⟩ := exists_segments_append path
  have hmem : last ∈ segments path := by simp [hs]
  rw [leaf_of_segments hs]
  exact slash_not_mem_of_mem_segments hmem

/-- A path of normal form is put together again from its folder and its name. -/
theorem inFolder_parent_leaf {path : String} (h : Normal path) :
    inFolder (parent path) (leaf path) = path := by
  rcases h with rfl | h
  · decide
  · obtain ⟨front, last, hs⟩ := exists_segments_append path
    rw [parent_of_segments hs, leaf_of_segments hs]
    by_cases hf : front = []
    · have hpath : path = last := by rw [← ofSegments_segments path, hs, hf]; simp
      simp [hf, inFolder, hpath]
    · have hord : ∀ s ∈ front, Ordinary s := fun s hm => h s (by simp [hs, hm])
      have hfree := slash_not_mem_of_segments_append hs
      have hback := segments_ofSegments hf hfree
      have hempty : ofSegments front ≠ "" := by
        intro he
        rw [he, segments_of_not_mem (by simp)] at hback
        exact (hord "" (by simp [← hback])).1 rfl
      have hroot : ofSegments front ≠ root := by
        intro he
        rw [he, segments_of_not_mem (by decide)] at hback
        exact (hord root (by simp [← hback])).2.1 rfl
      rw [if_neg hempty, inFolder, if_neg hroot, ← ofSegments_segments path, hs,
        ofSegments_append hf (List.cons_ne_nil _ _), ofSegments_singleton]

theorem segments_inFolder (folder : String) {name : String} (hname : '/' ∉ name.toList) :
    segments (inFolder folder name) =
      (if folder = root then [] else segments folder) ++ [name] := by
  unfold inFolder
  split
  next => exact segments_of_not_mem hname
  next => rw [segments_append_slash, segments_of_not_mem hname]

theorem leaf_inFolder (folder : String) {name : String} (hname : '/' ∉ name.toList) :
    leaf (inFolder folder name) = name :=
  leaf_of_segments (segments_inFolder folder hname)

theorem parent_inFolder {folder name : String} (hfolder : folder ≠ "")
    (hname : '/' ∉ name.toList) : parent (inFolder folder name) = folder := by
  rw [parent_of_segments (segments_inFolder folder hname)]
  by_cases hroot : folder = root
  · simp [hroot]
  · simp [hroot, hfolder]

end ImportSurvey.Path
