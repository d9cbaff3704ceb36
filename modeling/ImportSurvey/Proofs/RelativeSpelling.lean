import ImportSurvey.Proofs.PathDescent
import ImportSurvey.Proofs.Resolution

namespace ImportSurvey

namespace Path

theorem foldlM_step?_climb {trail : List String} {count : Nat} (h : count ≤ trail.length) :
    (List.replicate count "..").foldlM step? trail = some (trail.drop count) := by
  induction count generalizing trail with
  | zero => rfl
  | succ count ih =>
    cases trail with
    | nil => simp at h
    | cons top outer =>
      rw [List.replicate_succ, List.foldlM_cons, step?_climb_cons]
      exact ih (Nat.le_of_succ_le_succ h)

end Path

namespace Token

/-- A climb by a number of folders, or the marker of the folder itself. -/
def climbing (count : Nat) : String :=
  if count = 0 then "./" else String.join (List.replicate count "../")

/-- The token for a file that climbs from `folder` until only `shared` segments are left, and goes
down by the segments of the file behind as many. -/
def spelling (folder file : String) (shared : Nat) : String :=
  climbing (Path.depth folder - shared) ++ Path.ofSegments ((Path.segments file).drop shared)

theorem segments_join_replicate (count : Nat) (rest : String) :
    Path.segments (String.join (List.replicate count "../") ++ rest) =
      List.replicate count ".." ++ Path.segments rest := by
  induction count with
  | zero => simp [String.join]
  | succ count ih =>
    have hup : String.join (List.replicate (count + 1) "../") ++ rest =
        ".." ++ "/" ++ (String.join (List.replicate count "../") ++ rest) := by
      rw [List.replicate_succ, String.join_cons, String.append_assoc]
      rfl
    rw [hup, Path.segments_append_slash, ih, Path.segments_of_not_mem (by decide)]
    rfl

/-- The segments of a climb. -/
def climbs (count : Nat) : List String := if count = 0 then ["."] else List.replicate count ".."

theorem segments_climbing (count : Nat) (rest : String) :
    Path.segments (climbing count ++ rest) = climbs count ++ Path.segments rest := by
  unfold climbing climbs
  split
  next =>
    have hfree : '/' ∉ ".".toList := by decide
    rw [← Path.segments_of_not_mem hfree]
    exact Path.segments_append_slash "." rest
  next => exact segments_join_replicate count rest

theorem slash_mem_climbing (count : Nat) : '/' ∈ (climbing count).toList := by
  unfold climbing
  cases count with
  | zero => decide
  | succ count => simp [List.replicate_succ, String.join_cons]

/-- A token with a slash is no dotted module name. -/
theorem dotted?_of_slash {token : String} (h : '/' ∈ token.toList) : dotted? token = none := by
  simp [dotted?, h]

theorem pathText_of_slash {token : String} (h : '/' ∈ token.toList) : pathText token = token := by
  rw [pathText, dotted?_of_slash h]
  rfl

theorem pathText_spelling (folder file : String) (shared : Nat) :
    pathText (spelling folder file shared) = spelling folder file shared := by
  have hslash : '/' ∈ (spelling folder file shared).toList := by
    rw [spelling, String.toList_append]
    exact List.mem_append_left _ (slash_mem_climbing _)
  exact pathText_of_slash hslash

theorem relative_spelling (folder file : String) (shared : Nat) :
    Relative (spelling folder file shared) := by
  left
  unfold Marked
  rw [spelling, segments_climbing, climbs]
  split
  next => exact .inl rfl
  next hcount =>
    right
    rw [List.head?_append, List.head?_replicate, if_neg hcount]
    rfl

end Token

namespace Path

theorem foldlM_step?_climbs (common inner : List String) :
    (Token.climbs inner.length).foldlM step? (common ++ inner).reverse = some common.reverse := by
  rw [Token.climbs, List.reverse_append]
  split
  next hnil => simp [List.eq_nil_of_length_eq_zero hnil, step?_idle]
  next => simp [foldlM_step?_climb]

/-- Climbing to a folder above both the folder and the file leads to the file from there. -/
theorem join?_spelling {folder file : String} {common : List String} (hfolder : Normal folder)
    (hfile : Normal file) (hne : file ≠ root) (habove : common <+: descent folder)
    (hshared : common <+: descent (parent file)) :
    join? folder (Token.spelling folder file common.length) = some file := by
  obtain ⟨inner, hinner⟩ := habove
  obtain ⟨outer, houter⟩ := hshared
  have hsegs : segments file = common ++ (outer ++ [leaf file]) := by
    rw [segments_eq_descent_append hfile, ← houter, List.append_assoc]
  have hord : ∀ s ∈ segments file, Ordinary s := hfile.resolve_left hne
  have hdown : segments (ofSegments ((segments file).drop common.length)) =
      outer ++ [leaf file] := by
    rw [hsegs, List.drop_left]
    refine segments_ofSegments (by simp) fun s hs => ?_
    exact slash_not_mem_of_mem_segments (hsegs ▸ List.mem_append_right common hs)
  have hcount : depth folder - common.length = inner.length := by
    rw [depth_eq_length_descent, ← hinner, List.length_append, Nat.add_sub_cancel_left]
  rw [join?_eq_foldlM_descent hfolder, Token.spelling, Token.segments_climbing, hcount, hdown]
  calc ((Token.climbs inner.length ++ (outer ++ [leaf file])).foldlM step?
          (descent folder).reverse).map ofTrail
      = ((outer ++ [leaf file]).foldlM step? common.reverse).map ofTrail := by
        rw [← hinner, List.foldlM_append, foldlM_step?_climbs, Option.bind_eq_bind,
          Option.bind_some]
    _ = some (ofTrail (segments file).reverse) := by
        rw [foldlM_step?_ordinary _ fun s hs => hord s (hsegs ▸ List.mem_append_right common hs),
          ← List.reverse_append, ← hsegs, Option.map_some]
    _ = some file := by rw [ofTrail_reverse_segments]

end Path

namespace Resolver

/-- From every folder, every relative spelling of a file of the tree resolves to this file, whatever
the extensions and aliases are. -/
theorem resolve?_spelling (r : Resolver) {folder file : String} {common : List String}
    (hmem : file ∈ r.files) (hfile : Path.Normal file) (hne : file ≠ Path.root)
    (hfolder : Path.Normal folder) (habove : common <+: Path.descent folder)
    (hshared : common <+: Path.descent (Path.parent file)) :
    r.resolve? (Token.spelling folder file common.length) folder = some ⟨file, .resolved⟩ := by
  refine resolve?_of_file (Token.relative_spelling ..) ?_ hne hmem
  rw [Token.pathText_spelling, Path.join?_spelling hfolder hfile hne habove hshared]

/-- A file with longer candidates beside it and aliases that begin its spellings, seen from its own
folder: each place to stop the climb has a spelling. -/
theorem resolve?_spelling_beside :
    let r : Resolver := ⟨.ofList ["a/b/x", "a/b/x.ts", "a/b/x/index.ts"], ["ts"],
      some (.ofPairs [("./", "lib"), ("../", "lib")])⟩
    "a/b/x" ∈ r.files ∧ Path.Normal "a/b/x" ∧ "a/b/x" ≠ Path.root ∧ Path.Normal "a/b" ∧
      [2, 1, 0].map (Token.spelling "a/b" "a/b/x") = ["./x", "../b/x", "../../a/b/x"] ∧
      ∀ common ∈ [["a", "b"], ["a"], []], common <+: Path.descent "a/b" ∧
        common <+: Path.descent (Path.parent "a/b/x") ∧
        r.resolve? (Token.spelling "a/b" "a/b/x" common.length) "a/b" =
          some ⟨"a/b/x", .resolved⟩ := by
  intro r
  have hmem : "a/b/x" ∈ r.files := by simp [r, Std.HashSet.mem_ofList]
  have hfile : Path.Normal "a/b/x" := by decide
  have hne : "a/b/x" ≠ Path.root := by decide
  have hfolder : Path.Normal "a/b" := by decide
  refine ⟨hmem, hfile, hne, hfolder, by decide, fun common hcommon => ?_⟩
  have hprefix : ∀ common ∈ [["a", "b"], ["a"], []], common <+: Path.descent "a/b" ∧
      common <+: Path.descent (Path.parent "a/b/x") := by decide
  obtain ⟨habove, hshared⟩ := hprefix common hcommon
  exact ⟨habove, hshared, resolve?_spelling r hmem hfile hne hfolder habove hshared⟩

end Resolver

end ImportSurvey
