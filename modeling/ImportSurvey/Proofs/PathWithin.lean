import ImportSurvey.Proofs.PathParent

namespace ImportSurvey.Path

/-- A path lies in a folder if it continues the segments of the folder. -/
theorem within_iff_segments {path folder : String} (hroot : folder ≠ root) :
    within path folder ↔ segments folder <+: segments path := by
  simp [within, segments_prefix_iff, hroot]

theorem prefix_segments_iff_of_not_mem {path folder : String} (h : '/' ∉ path.toList) :
    segments folder <+: segments path ↔ path = folder := by
  rw [segments_prefix_iff, or_iff_left]
  exact fun hp => h (hp.subset (by simp))

theorem within_root (path : String) : within path root := by
  simp [within]

theorem not_within_root {folder : String} (hroot : folder ≠ root) : ¬within root folder := by
  rw [within_iff_segments hroot, prefix_segments_iff_of_not_mem (by decide)]
  exact hroot.symm

/-- The folder of a folder does not lie in it. -/
theorem not_within_parent {folder : String} (hroot : folder ≠ root) :
    ¬within (parent folder) folder := by
  obtain ⟨front, last, hs⟩ := exists_segments_append folder
  have hfree := slash_not_mem_of_segments_append hs
  rw [parent_of_segments hs]
  split
  next => exact not_within_root hroot
  next hf =>
    rw [within_iff_segments hroot, hs, segments_ofSegments (fun he => hf (by simp [he])) hfree]
    intro hp
    have hlength := hp.length_le
    simp only [List.length_append, List.length_singleton] at hlength
    omega

/-- A path lies in a folder if it is the folder or the folder of the path lies in it. -/
theorem within_iff_parent {path folder : String} (hne : folder ≠ "") (hroot : folder ≠ root) :
    within path folder ↔ path = folder ∨ within (parent path) folder := by
  obtain ⟨front, last, hs⟩ := exists_segments_append path
  have hfree := slash_not_mem_of_segments_append hs
  have hpath : path = folder ↔ segments folder = front ++ [last] := by
    rw [← hs]
    exact ⟨fun h => h ▸ rfl, fun h => (segments_injective h).symm⟩
  rw [within_iff_segments hroot, within_iff_segments hroot, hs, List.prefix_concat_iff, hpath,
    parent_of_segments hs]
  refine or_congr_right ?_
  split
  next hf =>
    have hbelow : ¬segments folder <+: front := by
      intro hp
      by_cases hnil : front = []
      · simp [hnil] at hp
      · have hempty : front = segments "" := by rw [← hf, segments_ofSegments hnil hfree]
        rw [hempty, prefix_segments_iff_of_not_mem (by simp)] at hp
        exact hne hp.symm
    have hbase := not_within_root hroot
    rw [within_iff_segments hroot] at hbase
    exact iff_of_false hbelow hbase
  next hf => rw [segments_ofSegments (fun he => hf (by simp [he])) hfree]

end ImportSurvey.Path
