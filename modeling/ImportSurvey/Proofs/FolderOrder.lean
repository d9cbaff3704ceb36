import Mathlib.Order.Defs.Unbundled
import ImportSurvey.Proofs.PathDescent
import ImportSurvey.Proofs.PathWithin

namespace ImportSurvey.Path

variable {path folder other : String}

/-- A path lies in a folder if its descent passes the folder. -/
theorem within_iff_descent : within path folder ↔ descent folder <+: descent path := by
  by_cases hfolder : folder = root
  · have hall := within_root path
    simp [hfolder, hall]
  · by_cases hpath : path = root
    · have hout : ¬within root folder := not_within_root hfolder
      have hdescent : ¬descent folder <+: descent root := by simpa using hfolder
      rw [hpath]
      exact iff_of_false hout hdescent
    · rw [within_iff_segments hfolder, descent, descent, if_neg hfolder, if_neg hpath]

theorem within_antisymm (h : within path folder) (h' : within folder path) : path = folder := by
  have hbelow := within_iff_descent.mp h
  have habove := within_iff_descent.mp h'
  exact descent_injective (habove.eq_of_length_le hbelow.length_le)

theorem within_trans (h : within path folder) (h' : within folder other) : within path other := by
  have hbelow := within_iff_descent.mp h
  have habove := within_iff_descent.mp h'
  exact within_iff_descent.mpr (habove.trans hbelow)

theorem isPartialOrder_within : IsPartialOrder String fun path folder => within path folder where
  refl _ := within_iff_descent.mpr (List.prefix_refl _)
  antisymm _ _ := within_antisymm
  trans _ _ _ := within_trans

theorem length_ancestors (folder : String) : (ancestors folder).length = depth folder - 1 := by
  rw [ancestors_eq, depth_eq_length_descent, List.length_map, List.length_range]

theorem depth_pos (h : folder ≠ root) : 0 < depth folder := by
  rw [depth_eq_length_descent]
  exact List.length_pos_iff.mpr (mt descent_eq_nil_iff.mp h)

/-- The folders above a folder lie one below the other, the outermost in the base folder. -/
theorem map_depth_ancestors (h : Normal folder) :
    (ancestors folder).map depth = (List.range (depth folder - 1)).map (· + 1) := by
  rw [ancestors_eq, List.map_map, ← depth_eq_length_descent]
  refine List.map_congr_left fun n hn => ?_
  have hlt : n < depth folder - 1 := List.mem_range.mp hn
  have hback := descent_ofDescent_of_prefix h (List.take_prefix (n + 1) (descent folder))
  rw [depth_eq_length_descent] at hlt
  rw [Function.comp_apply, depth_eq_length_descent, hback, List.length_take]
  omega

theorem ancestors_pairwise_depth (h : Normal folder) :
    (ancestors folder).Pairwise fun outer inner => depth outer < depth inner := by
  have hrange : ((List.range (depth folder - 1)).map (· + 1)).Pairwise (· < ·) := by
    rw [List.pairwise_map]
    exact List.pairwise_lt_range.imp fun hlt => Nat.add_lt_add_right hlt 1
  rw [← map_depth_ancestors h] at hrange
  exact List.pairwise_map.mp hrange

/-- Above a folder is the folder that it lies in, unless that is the base folder, and what is above
that one. -/
theorem ancestors_of_parent (h : Normal folder) (hparent : parent folder ≠ root) :
    ancestors folder = ancestors (parent folder) ++ [parent folder] := by
  have hfolder : folder ≠ root := by
    intro hroot
    rw [hroot] at hparent
    exact hparent (by decide)
  have hsplit := descent_eq_append h hfolder
  have hpos : 0 < (descent (parent folder)).length :=
    List.length_pos_iff.mpr (mt descent_eq_nil_iff.mp hparent)
  obtain ⟨k, hk⟩ : ∃ k, (descent (parent folder)).length = k + 1 :=
    ⟨_, (Nat.sub_add_cancel hpos).symm⟩
  have hlast : ofDescent ((descent folder).take (k + 1)) = parent folder := by
    rw [hsplit, ← hk, List.take_left, ofDescent_descent]
  have hbefore : ∀ n ∈ List.range k, ofDescent ((descent folder).take (n + 1)) =
      ofDescent ((descent (parent folder)).take (n + 1)) := by
    intro n hn
    have hlt := List.mem_range.mp hn
    rw [hsplit, List.take_append_of_le_length (by omega)]
  have hlength : (descent folder).length - 1 = k + 1 := by
    rw [hsplit, List.length_append, hk, List.length_singleton, Nat.add_sub_cancel]
  rw [ancestors_eq, hlength, List.range_succ, List.map_append, List.map_congr_left hbefore,
    ancestors_eq (parent folder), hk, Nat.add_sub_cancel, List.map_singleton, hlast]

theorem ancestors_of_parent_root (h : Normal folder) (hparent : parent folder = root) :
    ancestors folder = [] := by
  have hdrop : (descent folder).dropLast = [] := by rw [← descent_parent h, hparent, descent_root]
  have hlength : (descent folder).length - 1 = 0 := by rw [← List.length_dropLast, hdrop]; rfl
  rw [ancestors_eq, hlength]
  rfl

/-- The folder that a folder lies in is the innermost one above it. -/
theorem parent_eq_getLastD_ancestors (h : Normal folder) :
    parent folder = (ancestors folder).getLastD root := by
  by_cases hparent : parent folder = root
  · rw [ancestors_of_parent_root h hparent, hparent]
    rfl
  · rw [ancestors_of_parent h hparent, List.getLastD_concat]

/-- Lying in a folder is to continue its segments. It is a partial order of all texts, under the
base folder; the folders strictly between a folder and the base folder are those above it, from the
outermost to the one that it lies in, and its depth counts them. -/
theorem within_orders_folders :
    (∀ path folder, folder ≠ root → (within path folder ↔ segments folder <+: segments path)) ∧
      (IsPartialOrder String fun path folder => within path folder) ∧
      (∀ path, within path root) ∧
      ∀ folder, Normal folder →
        (∀ other, other ∈ ancestors folder ↔
          other ≠ root ∧ other ≠ folder ∧ within folder other) ∧
        ((ancestors folder).Pairwise fun outer inner => depth outer < depth inner) ∧
        (folder ≠ root → depth folder = 1 + (ancestors folder).length) ∧
        parent folder = (ancestors folder).getLastD root := by
  refine ⟨fun path folder hroot => within_iff_segments hroot, isPartialOrder_within,
    within_root, fun folder h => ⟨fun other => ?_, ancestors_pairwise_depth h,
      fun hroot => ?_, parent_eq_getLastD_ancestors h⟩⟩
  · rw [mem_ancestors_iff h, within_iff_descent]
  · have hpos := depth_pos hroot
    rw [length_ancestors]
    omega

/-- A folder three levels down, beside one whose name goes on after the same beginning. -/
theorem within_orders_folders_siblings :
    "vendor/x" ≠ root ∧ ¬within "vendor/xy/z" "vendor/x" ∧ Normal "vendor/x/y" ∧
      "vendor" ∈ ancestors "vendor/x/y" ∧ "." ∉ ancestors "vendor/x/y" ∧
      "vendor/x/y" ≠ root ∧ depth "vendor/x/y" = 1 + ["vendor", "vendor/x"].length ∧
      parent "vendor/x/y" = "vendor/x" := by
  obtain ⟨hsegments, _, _, hfolders⟩ := within_orders_folders
  have hnormal : Normal "vendor/x/y" := by decide
  obtain ⟨habove, _, hdepth, hparent⟩ := hfolders "vendor/x/y" hnormal
  have hlist : ancestors "vendor/x/y" = ["vendor", "vendor/x"] := by decide
  have hbeside : ¬within "vendor/xy/z" "vendor/x" := by
    rw [hsegments "vendor/xy/z" "vendor/x" (by decide)]
    decide
  refine ⟨by decide, hbeside, hnormal, (habove "vendor").mpr (by decide), ?_, by decide, ?_, ?_⟩
  · exact fun hbase => ((habove ".").mp hbase).1 rfl
  · rw [← hlist]
    exact hdepth (by decide)
  · rw [hparent, hlist]
    rfl

end ImportSurvey.Path
