import Mathlib.Data.List.Basic
import ImportSurvey.Proofs.Outcomes
import ImportSurvey.Proofs.PathParent
import ImportSurvey.Scan

namespace ImportSurvey

/-- The names that lead to a file that a walk shows. -/
def Sight.fileNames? : Sight → Option (List String)
  | .file names => some names
  | .blocked _ _ => none
  | .lost _ _ => none

theorem Sight.mem_fileNames?_iff {sights : List Sight} {names : List String} :
    names ∈ sights.filterMap Sight.fileNames? ↔ .file names ∈ sights := by
  rw [List.mem_filterMap]
  constructor
  · rintro ⟨sight, hs, hn⟩
    cases sight with
    | file other => cases Option.some.inj hn; exact hs
    | blocked other fault => simp [Sight.fileNames?] at hn
    | lost other fault => simp [Sight.fileNames?] at hn
  · exact fun hs => ⟨_, hs, rfl⟩

/-- The files of a walk are known by the paths of their names. -/
theorem Walk.files_ofDisk (d : Disk) (skipped : NameSet) (base : String) :
    (Walk.ofDisk d skipped base).files =
      ((d.sights skipped.contains base).filterMap Sight.fileNames?).map walkPath := by
  rw [List.map_filterMap]
  refine List.filterMap_congr fun sight _ => ?_
  cases sight <;> rfl

namespace Plan

/-- The files that a survey counts, each by the names that lead to it from the start of the walk:
the walk shows the file, its path has a wanted extension, and reading that path succeeds. -/
def counted (d : Disk) (p : Plan) : List (List String) :=
  if p.isUnscoped then []
  else ((d.sights p.skipDirs.contains p.base).filterMap Sight.fileNames?).filter fun names =>
    hasExtension p.extensions (walkPath names) && (p.read d (walkPath names)).text?.isSome

/-- The paths of the counted files with what is read there. -/
def contents (d : Disk) (p : Plan) : List (String × String) :=
  (p.counted d).filterMap fun names => (p.read d (walkPath names)).text?

/-- In front of a wanted extension there is a point, and more than that. -/
theorem exists_stem_of_hasExtension {extensions : List String} {file : String}
    (h : hasExtension extensions file) : ∃ stem ext, (Path.leaf file).toList = stem ++ ext ∧
      stem.length ≠ 1 ∧ stem.getLast? = some '.' := by
  obtain ⟨ext, _, hfits⟩ := List.any_eq_true.mp h
  split at hfits
  next stem hstem =>
    simp only [ne_eq, Bool.and_eq_true, decide_eq_true_eq, beq_iff_eq] at hfits
    exact ⟨stem, ext.toList, Text.before?_eq_some_iff.mp hstem, hfits⟩
  next => simp at hfits

theorem two_le_leaf_of_hasExtension {extensions : List String} {file : String}
    (h : hasExtension extensions file) : 2 ≤ (Path.leaf file).toList.length := by
  obtain ⟨stem, ext, htext, hlong, hlast⟩ := exists_stem_of_hasExtension h
  have hpos : stem ≠ [] := fun hnil => by simp [hnil] at hlast
  have hlen := List.length_pos_iff.mpr hpos
  rw [htext, List.length_append]
  omega

theorem point_mem_leaf_of_hasExtension {extensions : List String} {file : String}
    (h : hasExtension extensions file) : '.' ∈ (Path.leaf file).toList := by
  obtain ⟨stem, ext, htext, _, hlast⟩ := exists_stem_of_hasExtension h
  rw [htext]
  exact List.mem_append_left _ (List.mem_of_getLast? hlast)

/-- The start of a walk has no name that could end with an extension. -/
theorem ne_nil_of_hasExtension {extensions names : List String}
    (h : hasExtension extensions (walkPath names)) : names ≠ [] := by
  rintro rfl
  have hlen := two_le_leaf_of_hasExtension h
  have hleaf : Path.leaf (walkPath []) = "" := @Path.leaf_of_segments _ _ [] (by decide)
  rw [hleaf] at hlen
  simp at hlen

theorem text?_eq_some_iff {r : Reading} {file text : String} :
    r.text? = some (file, text) ↔ r.file = file ∧ r.content = .ok text := by
  unfold Reading.text?
  cases r.content <;> simp

theorem fst_of_text? {r : Reading} {c : String × String} (h : r.text? = some c) :
    c.1 = r.file :=
  (text?_eq_some_iff.mp h).1.symm

theorem isSome_text?_read_iff {d : Disk} {p : Plan} {file : String} :
    (p.read d file).text?.isSome ↔
      ∃ text, d.readLenient (Place.join p.base file) = .ok text := by
  unfold read Reading.text?
  cases d.readLenient (Place.join p.base file) <;> simp

theorem mem_counted_iff {d : Disk} {p : Plan} {names : List String} :
    names ∈ p.counted d ↔ ¬p.isUnscoped ∧ .file names ∈ d.sights p.skipDirs.contains p.base ∧
      hasExtension p.extensions (walkPath names) ∧
      ∃ text, d.readLenient (Place.join p.base (walkPath names)) = .ok text := by
  unfold counted
  by_cases hu : p.isUnscoped
  · simp [hu]
  · simp only [hu, if_false, List.mem_filter, Bool.and_eq_true, Sight.mem_fileNames?_iff,
      isSome_text?_read_iff, Bool.false_eq_true, not_false_eq_true, true_and]

/-- The base folder itself is never counted. -/
theorem walkPath_ne_root {d : Disk} {p : Plan} {names : List String} (h : names ∈ p.counted d) :
    walkPath names ≠ Path.root := by
  intro hroot
  have hlen := two_le_leaf_of_hasExtension (mem_counted_iff.mp h).2.2.1
  have hleaf : Path.leaf Path.root = "." := @Path.leaf_of_segments _ _ [] (by decide)
  rw [hroot, hleaf] at hlen
  simp at hlen

/-- Something leads from the start of the walk to a counted file. -/
theorem ne_nil_of_mem_counted {d : Disk} {p : Plan} {names : List String}
    (h : names ∈ p.counted d) : names ≠ [] :=
  ne_nil_of_hasExtension (mem_counted_iff.mp h).2.2.1

/-- The paths of the counted files, in the order of the walk. -/
theorem contents_paths (d : Disk) (p : Plan) :
    (p.contents d).map Prod.fst = (p.counted d).map walkPath := by
  have hsome : ∀ names ∈ p.counted d, (p.read d (walkPath names)).text?.isSome := by
    intro names hn
    obtain ⟨_, _, _, text, ht⟩ := mem_counted_iff.mp hn
    simp [read, Reading.text?, ht]
  unfold contents
  generalize p.counted d = all at hsome
  induction all with
  | nil => rfl
  | cons names rest ih =>
    obtain ⟨c, hc⟩ := Option.isSome_iff_exists.mp (hsome names List.mem_cons_self)
    simp only [List.filterMap_cons, hc, List.map_cons,
      ih fun other ho => hsome other (List.mem_cons_of_mem _ ho), fst_of_text? hc]
    rfl

/-- What is read under the path of a counted file is its content. -/
theorem mem_contents_iff {d : Disk} {p : Plan} {file text : String} :
    (file, text) ∈ p.contents d ↔ ∃ names ∈ p.counted d, walkPath names = file ∧
      d.readLenient (Place.join p.base file) = .ok text := by
  rw [contents, List.mem_filterMap]
  refine exists_congr fun names => and_congr_right fun _ => text?_eq_some_iff.trans ?_
  exact and_congr_right fun hpath => by rw [← hpath, read]

theorem mem_contents_of_sight {d : Disk} {p : Plan} {names : List String} {file text : String}
    (hscoped : ¬p.isUnscoped) (hsight : .file names ∈ d.sights p.skipDirs.contains p.base)
    (hpath : walkPath names = file) (hext : hasExtension p.extensions file)
    (hread : d.readLenient (Place.join p.base file) = .ok text) : (file, text) ∈ p.contents d := by
  subst hpath
  exact mem_contents_iff.mpr
    ⟨names, mem_counted_iff.mpr ⟨hscoped, hsight, hext, text, hread⟩, rfl, hread⟩

theorem contents_eq_readings {d : Disk} {p : Plan} (h : ¬p.isUnscoped) :
    (p.readings d (Walk.ofDisk d p.skipDirs p.base)).filterMap (·.text?) = p.contents d := by
  rw [readings, Walk.files_ofDisk, contents, counted, if_neg h, List.filter_map, List.map_map,
    List.filterMap_map, List.filterMap_filter, List.filterMap_filter]
  refine List.filterMap_congr fun names _ => ?_
  rw [Function.comp_apply, Function.comp_apply]
  cases hread : (p.read d (walkPath names)).text? with
  | none => simp [hread]
  | some c => simp [hread]

/-- What a survey meets that cannot be read: on the walk, and then among the files with a wanted
extension. -/
def obstacles (d : Disk) (p : Plan) : List Obstacle :=
  if p.isUnscoped then []
  else
    let walk := Walk.ofDisk d p.skipDirs p.base
    walk.obstacles ++ (p.readings d walk).filterMap (·.obstacle? p.base)

theorem check_append (mode : WalkMode) (first rest : List Obstacle) :
    mode.check (first ++ rest) = (mode.check first).bind fun _ => mode.check rest := by
  cases mode with
  | bestEffort => rfl
  | failFast => cases first <;> rfl

/-- The walk and the reading together: the first obstacle of either ends the survey if nothing may
be passed over, and otherwise all of them are noted beside the contents. -/
theorem survey_eq (d : Disk) (p : Plan) :
    p.survey d = (p.mode.check (p.obstacles d)).map fun _ =>
      p.ofContents (p.contents d) ((p.obstacles d).map (·.issue)) := by
  unfold survey obstacles
  by_cases hu : p.isUnscoped
  · have hnone : p.contents d = [] := by simp [contents, counted, hu]
    have hfree : p.mode.check [] = .ok () := by cases p.mode <;> rfl
    simp only [hu, if_true, hnone, hfree]
    rfl
  · simp only [hu, if_false, Bool.false_eq_true, check_append, contents_eq_readings hu]
    cases p.mode.check (Walk.ofDisk d p.skipDirs p.base).obstacles with
    | error fault => rfl
    | ok u => rfl

theorem survey_of_bestEffort {p : Plan} (hmode : p.mode = .bestEffort) (d : Disk) :
    p.survey d = .ok (p.ofContents (p.contents d) ((p.obstacles d).map (·.issue))) := by
  rw [survey_eq, hmode]
  rfl

/-- A survey holds the contents of the files that are counted, whatever it passed over. -/
theorem survey_eq_ofContents {d : Disk} {p : Plan} {s : Survey} (h : p.survey d = .ok s) :
    ∃ issues, s = p.ofContents (p.contents d) issues := by
  rw [survey_eq] at h
  obtain ⟨_, _, rfl⟩ := map_eq_ok_iff.mp h
  exact ⟨_, rfl⟩

theorem survey_files {d : Disk} {p : Plan} {s : Survey} (h : p.survey d = .ok s) :
    s.files = (p.counted d).map walkPath := by
  obtain ⟨issues, rfl⟩ := survey_eq_ofContents h
  exact contents_paths d p

end Plan

end ImportSurvey
