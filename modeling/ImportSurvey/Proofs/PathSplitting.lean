import ImportSurvey.Proofs.PathDescent

namespace ImportSurvey.Path

variable {path folder name rel : String}

/-- The paths of normal form are those that joins produce. -/
theorem normal_iff_exists_join? : Normal path ↔ ∃ folder rel, join? folder rel = some path := by
  constructor
  · intro h
    exact ⟨root, path, join?_root_of_normal h⟩
  · rintro ⟨folder, rel, h⟩
    exact normal_of_join? h

/-- The name of a path below the base folder is an ordinary segment. -/
theorem ordinary_leaf (h : Normal path) (hroot : path ≠ root) : Ordinary (leaf path) := by
  have hdescent := descent_eq_append h hroot
  have hmem : leaf path ∈ descent path := by simp [hdescent]
  exact (of_mem_descent h hmem).1

/-- A name that is joined onto a folder lies in it. -/
theorem join?_name (h : Normal folder) (hname : Ordinary name) (hfree : '/' ∉ name.toList) :
    join? folder name = some (inFolder folder name) := by
  have hsegs : segments (inFolder folder name) = descent folder ++ [name] :=
    segments_inFolder folder hfree
  have hstep : (segments name).foldlM step? (descent folder).reverse =
      some (name :: (descent folder).reverse) := by
    rw [segments_of_not_mem hfree, List.foldlM_cons, step?_ordinary _ hname]
    rfl
  have hback : (name :: (descent folder).reverse) = (segments (inFolder folder name)).reverse := by
    rw [hsegs, List.reverse_append]
    rfl
  rw [join?_eq_foldlM_descent h, hstep, Option.map_some, hback, ofTrail_reverse_segments]

/-- A climb leads from a folder to the one that it lies in, and fails in the base folder. -/
theorem join?_climb (h : Normal folder) :
    join? folder ".." = if folder = root then none else some (parent folder) := by
  have hsegs : segments ".." = [".."] := by decide
  rw [join?_eq_foldlM_descent h, hsegs]
  split
  next hroot => simp [hroot]
  next hroot =>
    have htrail : (descent folder).reverse = leaf folder :: (descent (parent folder)).reverse := by
      rw [descent_eq_append h hroot, List.reverse_append]
      rfl
    have hup : ofTrail (descent (parent folder)).reverse = parent folder := by
      rw [ofTrail_eq_ofDescent, List.reverse_reverse, ofDescent_descent]
    rw [htrail, List.foldlM_cons, step?_climb_cons]
    exact congrArg some hup

/-- A path below the base folder is its name, joined onto its folder, and a climb leads back to the
folder; and what a name joined onto a folder gives is split into the two again. -/
theorem join?_parent_leaf :
    (∀ path, Normal path → path ≠ root →
      join? (parent path) (leaf path) = some path ∧ join? path ".." = some (parent path) ∧
        Normal (parent path) ∧ Ordinary (leaf path) ∧ '/' ∉ (leaf path).toList) ∧
      ∀ folder name, (∃ start rel, join? start rel = some folder) →
        Ordinary name → '/' ∉ name.toList →
          ∃ path, join? folder name = some path ∧ parent path = folder ∧ leaf path = name := by
  constructor
  · intro path h hroot
    have hparent := normal_parent h
    have hleaf := ordinary_leaf h hroot
    have hfree := slash_not_mem_leaf path
    have hjoin := join?_name hparent hleaf hfree
    have hup := join?_climb h
    rw [inFolder_parent_leaf h] at hjoin
    rw [if_neg hroot] at hup
    exact ⟨hjoin, hup, hparent, hleaf, hfree⟩
  · intro folder name hfolder hname hfree
    have hnormal := normal_iff_exists_join?.mpr hfolder
    have hparent := parent_inFolder (ne_empty_of_normal hnormal) hfree
    have hleaf := leaf_inFolder folder hfree
    exact ⟨inFolder folder name, join?_name hnormal hname hfree, hparent, hleaf⟩

/-- A file directly in the base folder, and a name that begins with dots. -/
theorem join?_parent_leaf_top :
    Normal "x.ts" ∧ "x.ts" ≠ root ∧ join? (parent "x.ts") (leaf "x.ts") = some "x.ts" ∧
      join? "x.ts" ".." = some "." ∧ (∃ start rel, join? start rel = some "a/b") ∧
      Ordinary "..." ∧ '/' ∉ "...".toList ∧
      ∃ path, join? "a/b" "..." = some path ∧ parent path = "a/b" ∧ leaf path = "..." := by
  obtain ⟨hsplit, hjoin⟩ := join?_parent_leaf
  have hnormal : Normal "x.ts" := by decide
  have hroot : "x.ts" ≠ root := by decide
  obtain ⟨hback, hup, _⟩ := hsplit "x.ts" hnormal hroot
  have hbase : parent "x.ts" = "." := by decide
  have hfolder : ∃ start rel, join? start rel = some "a/b" := ⟨".", "a/./b", by decide⟩
  have hname : Ordinary "..." := by decide
  have hfree : '/' ∉ "...".toList := by decide
  exact ⟨hnormal, hroot, hback, hbase ▸ hup, hfolder, hname, hfree,
    hjoin "a/b" "..." hfolder hname hfree⟩

end ImportSurvey.Path
