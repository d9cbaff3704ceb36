import Mathlib.Data.List.Induction
import ImportSurvey.Catalog
import ImportSurvey.Proofs.PathParent

namespace ImportSurvey.Path

/-- The segments that lead from the base folder down to a folder. -/
def descent (folder : String) : List String := if folder = root then [] else segments folder

theorem depth_eq_length_descent (folder : String) : depth folder = (descent folder).length := by
  unfold depth descent
  split <;> rfl

theorem segments_eq_descent_append {file : String} (h : Normal file) :
    segments file = descent (parent file) ++ [leaf file] := by
  have hsegs := segments_inFolder (parent file) (slash_not_mem_leaf file)
  rwa [inFolder_parent_leaf h] at hsegs

theorem foldlM_step?_folder {folder : String} (h : Normal folder) :
    (segments folder).foldlM step? [] = some (descent folder).reverse := by
  unfold descent
  split
  next hroot =>
    subst hroot
    decide
  next hroot => rw [foldlM_step?_ordinary [] (h.resolve_left hroot), List.append_nil]

/-- A join goes on from where its folder lies. -/
theorem join?_eq_foldlM_descent {folder : String} (h : Normal folder) (rel : String) :
    join? folder rel = ((segments rel).foldlM step? (descent folder).reverse).map ofTrail := by
  rw [join?, List.foldlM_append, foldlM_step?_folder h]
  rfl

variable {folder other : String} {segs : List String}

@[simp]
theorem descent_root : descent root = [] := if_pos rfl

@[simp]
theorem ofDescent_descent (folder : String) : ofDescent (descent folder) = folder := by
  unfold ofDescent descent
  by_cases h : folder = root
  · simp [h]
  · simp [h]

theorem descent_injective (h : descent folder = descent other) : folder = other := by
  rw [← ofDescent_descent folder, h, ofDescent_descent]

@[simp]
theorem descent_eq_nil_iff : descent folder = [] ↔ folder = root :=
  ⟨fun h => descent_injective (h.trans descent_root.symm), fun h => h ▸ descent_root⟩

theorem descent_ofDescent (h : ∀ s ∈ segs, Ordinary s ∧ '/' ∉ s.toList) :
    descent (ofDescent segs) = segs := by
  unfold ofDescent
  split
  next hnil => simp [hnil]
  next hne =>
    have hback := segments_ofSegments hne fun s hs => (h s hs).2
    have hroot : ofSegments segs ≠ root := by
      intro he
      rw [he, segments_of_not_mem (by decide)] at hback
      exact (h root (by simp [← hback])).1.2.1 rfl
    rw [descent, if_neg hroot, hback]

theorem of_mem_descent (h : Normal folder) {s : String} (hs : s ∈ descent folder) :
    Ordinary s ∧ '/' ∉ s.toList := by
  unfold descent at hs
  split at hs
  next => simp at hs
  next hroot => exact ⟨h.resolve_left hroot s hs, slash_not_mem_of_mem_segments hs⟩

/-- The beginning of a descent leads to a folder of its own. -/
theorem descent_ofDescent_of_prefix (h : Normal folder) (hp : segs <+: descent folder) :
    descent (ofDescent segs) = segs :=
  descent_ofDescent fun _ hs => of_mem_descent h (hp.subset hs)

theorem descent_eq_append (h : Normal folder) (hroot : folder ≠ root) :
    descent folder = descent (parent folder) ++ [leaf folder] := by
  rw [← segments_eq_descent_append h, descent, if_neg hroot]

theorem descent_parent (h : Normal folder) :
    descent (parent folder) = (descent folder).dropLast := by
  by_cases hroot : folder = root
  · subst hroot
    decide
  · rw [descent_eq_append h hroot, List.dropLast_concat]

theorem ancestors_eq (folder : String) :
    ancestors folder = (List.range ((descent folder).length - 1)).map fun n =>
      ofDescent ((descent folder).take (n + 1)) := by
  by_cases hroot : folder = root
  · simp [ancestors, hroot]
  · have hsegs : segments folder = descent folder := (if_neg hroot).symm
    rw [ancestors, if_neg hroot, hsegs]
    refine List.map_congr_left fun n _ => ?_
    have hne : (descent folder).take (n + 1) ≠ [] := by simp [hroot]
    rw [ofDescent, if_neg hne]

/-- The folders above a folder are those that its descent passes, without the base folder. -/
theorem mem_ancestors_iff (h : Normal folder) :
    other ∈ ancestors folder ↔
      other ≠ root ∧ other ≠ folder ∧ descent other <+: descent folder := by
  rw [ancestors_eq, List.mem_map]
  constructor
  · rintro ⟨n, hn, rfl⟩
    have hp : (descent folder).take (n + 1) <+: descent folder := List.take_prefix _ _
    have hback := descent_ofDescent_of_prefix h hp
    have hlength := congrArg List.length hback
    rw [List.mem_range] at hn
    rw [List.length_take] at hlength
    refine ⟨fun he => ?_, fun he => ?_, hback.symm ▸ hp⟩
    · rw [he, descent_root, List.length_nil] at hlength
      omega
    · rw [he] at hlength
      omega
  · rintro ⟨hroot, hne, hp⟩
    have hpos : 0 < (descent other).length := List.length_pos_iff.mpr (by simpa using hroot)
    have hlt : (descent other).length < (descent folder).length :=
      Nat.lt_of_le_of_ne hp.length_le fun he => hne (descent_injective (hp.eq_of_length he))
    refine ⟨(descent other).length - 1, List.mem_range.mpr (by omega), ?_⟩
    rw [Nat.sub_add_cancel hpos, ← List.prefix_iff_eq_take.mp hp, ofDescent_descent]

end ImportSurvey.Path
