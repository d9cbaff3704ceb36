import ImportSurvey.Proofs.DiskRemoval
import ImportSurvey.Proofs.SurveyConfinement

namespace ImportSurvey.Plan

/-- The files with a wanted extension that the walk shows and that cannot be read under their paths,
each by the names that lead to it from the start of the walk. -/
def unread (d : Disk) (p : Plan) : List (List String) :=
  ((d.sights p.skipDirs.contains p.base).filterMap Sight.fileNames?).filter fun names =>
    hasExtension p.extensions (walkPath names) && !(p.read d (walkPath names)).text?.isSome

/-- Where they stand on the disk: the names that lead there from the root. -/
def unreadPlaces (d : Disk) (p : Plan) : List (List String) :=
  match d.look true p.base with
  | .ok b => (p.unread d).map (b.names ++ ·)
  | .error _ => []

/-- The disk without them. -/
def withoutUnread (d : Disk) (p : Plan) : Disk := d.remove (p.unreadPlaces d).contains

/-- What stands in the way of reading them. -/
def unreadObstacles (d : Disk) (p : Plan) : List Obstacle :=
  (p.unread d).filterMap fun names => (p.read d (walkPath names)).obstacle? p.base

/-- Without the files that cannot be read the survey comes out the same, but for the notes about
them. -/
def IgnoresUnread (d : Disk) (p : Plan) : Prop :=
  ∃ s s', p.survey d = .ok s ∧ p.survey (p.withoutUnread d) = .ok s' ∧
    s'.files = s.files ∧ s'.tree = s.tree ∧ s'.records = s.records ∧
    s'.issues = s.issues.filter (· ∉ (p.unreadObstacles d).map (·.issue))

/-- The path of a file leads to one of the files that cannot be read under their own paths. -/
def ReadsUnread (d : Disk) (p : Plan) (names : List String) : Prop :=
  ∃ found, d.look true (Place.join p.base (walkPath names)) = .ok found ∧
    found.names ∈ p.unreadPlaces d

variable {d : Disk} {p : Plan} {names : List String} {text : String}

theorem mem_unread_iff : names ∈ p.unread d ↔ .file names ∈ d.sights p.skipDirs.contains p.base ∧
    hasExtension p.extensions (walkPath names) ∧
    ¬∃ text, d.readLenient (Place.join p.base (walkPath names)) = .ok text := by
  rw [← isSome_text?_read_iff, unread, List.mem_filter, Sight.mem_fileNames?_iff, Bool.and_eq_true,
    Bool.not_eq_true, Bool.not_eq_true']

theorem not_mem_unread_of_mem_counted (h : names ∈ p.counted d) : names ∉ p.unread d :=
  fun hn => (mem_unread_iff.mp hn).2.2 (mem_counted_iff.mp h).2.2.2

theorem exists_base_of_mem_unread (h : names ∈ p.unread d) :
    ∃ b, d.look true p.base = .ok b ∧ b.entry.isFolder := by
  obtain ⟨hsight, hext, _⟩ := mem_unread_iff.mp h
  obtain ⟨b, hbase, hleads⟩ := Disk.leads_of_mem_sights hsight
  exact ⟨b, hbase, hleads.isFolder (ne_nil_of_hasExtension hext)⟩

theorem mem_unreadPlaces_iff {b : Disk.Found} (hbase : d.look true p.base = .ok b) :
    b.names ++ names ∈ p.unreadPlaces d ↔ names ∈ p.unread d := by
  simp [unreadPlaces, hbase]

/-- The walk meets what it met before, but for the files that could not be read. -/
theorem sights_withoutUnread (legal : d.root.Legal) (p : Plan) :
    (p.withoutUnread d).sights p.skipDirs.contains p.base =
      (d.sights p.skipDirs.contains p.base).filter fun sight =>
        !sight.fileNames?.any (p.unread d).contains := by
  by_cases hnone : p.unread d = []
  · have hplaces : p.unreadPlaces d = [] := by
      unfold unreadPlaces
      split
      next => rw [hnone, List.map_nil]
      next => rfl
    have hself : p.withoutUnread d = d := Disk.remove_eq_self fun names => by simp [hplaces]
    rw [hself, hnone]
    exact (List.filter_eq_self.mpr fun sight _ => by cases sight.fileNames? <;> rfl).symm
  · obtain ⟨names, hn⟩ := List.exists_mem_of_ne_nil _ hnone
    obtain ⟨b, hbase, hfolder⟩ := exists_base_of_mem_unread hn
    rw [withoutUnread, Disk.sights_remove legal hbase hfolder]
    refine List.filter_congr fun sight _ => ?_
    cases sight with
    | blocked other fault => rfl
    | lost other fault => rfl
    | file other =>
      have hplace : b.names ++ other ∈ p.unreadPlaces d ↔ other ∈ p.unread d :=
        mem_unreadPlaces_iff hbase
      simp [Sight.isGone, Sight.fileNames?, hplace]

theorem shown_withoutUnread (legal : d.root.Legal) (p : Plan) :
    ((p.withoutUnread d).sights p.skipDirs.contains p.base).filterMap Sight.fileNames? =
      ((d.sights p.skipDirs.contains p.base).filterMap Sight.fileNames?).filter fun names =>
        !(p.unread d).contains names := by
  rw [sights_withoutUnread legal, List.filterMap_filter, List.filter_filterMap]
  refine List.filterMap_congr fun sight _ => ?_
  cases sight with
  | blocked other fault => rfl
  | lost other fault => rfl
  | file other => simp [Sight.fileNames?, Option.filter]

theorem readLenient_withoutUnread_iff (legal : d.root.Legal) :
    (p.withoutUnread d).readLenient (Place.join p.base (walkPath names)) = .ok text ↔
      d.readLenient (Place.join p.base (walkPath names)) = .ok text ∧ ¬p.ReadsUnread d names := by
  rw [withoutUnread, Disk.readLenient_remove_iff legal]
  simp [ReadsUnread]

/-- Nothing more is counted than before, and that as long as it can still be read. -/
theorem counted_withoutUnread (legal : d.root.Legal) (p : Plan) :
    p.counted (p.withoutUnread d) = (p.counted d).filter fun names =>
      (p.read (p.withoutUnread d) (walkPath names)).text?.isSome := by
  unfold counted
  split
  next => rfl
  next =>
    rw [shown_withoutUnread legal, List.filter_filter, List.filter_filter]
    refine List.filter_congr fun names hn => ?_
    rw [Sight.mem_fileNames?_iff] at hn
    have hread : (p.read (p.withoutUnread d) (walkPath names)).text?.isSome →
        (p.read d (walkPath names)).text?.isSome := by
      simp only [isSome_text?_read_iff, readLenient_withoutUnread_iff legal]
      exact fun ⟨text, htext, _⟩ => ⟨text, htext⟩
    have hunread : names ∈ p.unread d ↔ hasExtension p.extensions (walkPath names) ∧
        ¬(p.read d (walkPath names)).text?.isSome := by
      rw [mem_unread_iff, isSome_text?_read_iff, and_iff_right hn]
    rw [Bool.eq_iff_iff]
    simp only [Bool.and_eq_true, Bool.not_eq_true', List.contains_eq_mem, decide_eq_false_iff_not,
      hunread]
    constructor
    · rintro ⟨⟨hext, hleft⟩, _⟩
      exact ⟨hleft, hext, hread hleft⟩
    · rintro ⟨hleft, hext, hbefore⟩
      exact ⟨⟨hext, hleft⟩, fun h => h.2 hbefore⟩

/-- As long as no path of a counted file leads to an unread one, the contents stay. -/
theorem contents_withoutUnread (legal : d.root.Legal)
    (hfree : ∀ names ∈ p.counted d, ¬p.ReadsUnread d names) :
    p.contents (p.withoutUnread d) = p.contents d := by
  have hread : ∀ names ∈ p.counted d, (p.read (p.withoutUnread d) (walkPath names)).text? =
      (p.read d (walkPath names)).text? := by
    intro names hn
    obtain ⟨_, _, _, text, htext⟩ := mem_counted_iff.mp hn
    have hleft := (readLenient_withoutUnread_iff legal).mpr ⟨htext, hfree names hn⟩
    simp [read, Reading.text?, htext, hleft]
  have hcounted : p.counted (p.withoutUnread d) = p.counted d := by
    rw [counted_withoutUnread legal, List.filter_eq_self]
    intro names hn
    rw [hread names hn, isSome_text?_read_iff]
    exact (mem_counted_iff.mp hn).2.2.2
  rw [contents, contents, hcounted]
  exact List.filterMap_congr hread

theorem unread_withoutUnread (legal : d.root.Legal) (hscoped : ¬p.isUnscoped)
    (hfree : ∀ names ∈ p.counted d, ¬p.ReadsUnread d names) :
    p.unread (p.withoutUnread d) = [] := by
  refine List.eq_nil_iff_forall_not_mem.mpr fun names hn => ?_
  obtain ⟨hsight, hext, hclosed⟩ := mem_unread_iff.mp hn
  rw [← Sight.mem_fileNames?_iff, shown_withoutUnread legal, List.mem_filter,
    Sight.mem_fileNames?_iff] at hsight
  obtain ⟨hshown, hkept⟩ := hsight
  obtain ⟨text, htext⟩ :
      ∃ text, d.readLenient (Place.join p.base (walkPath names)) = .ok text := by
    by_contra hnone
    have hmem := mem_unread_iff.mpr ⟨hshown, hext, hnone⟩
    simp [hmem] at hkept
  have hcounted := mem_counted_iff.mpr ⟨hscoped, hshown, hext, text, htext⟩
  exact hclosed ⟨text, (readLenient_withoutUnread_iff legal).mpr ⟨htext, hfree names hcounted⟩⟩

theorem walk_obstacles_withoutUnread (legal : d.root.Legal) (p : Plan) :
    (Walk.ofDisk (p.withoutUnread d) p.skipDirs p.base).obstacles =
      (Walk.ofDisk d p.skipDirs p.base).obstacles := by
  simp only [Walk.ofDisk]
  rw [sights_withoutUnread legal, List.filterMap_filter]
  refine List.filterMap_congr fun sight _ => ?_
  cases sight with
  | blocked names fault => rfl
  | lost names fault => rfl
  | file names => exact ite_self none

theorem obstacle?_of_isSome_text? {r : Reading} (h : r.text?.isSome) (base : String) :
    r.obstacle? base = none := by
  unfold Reading.text? at h
  unfold Reading.obstacle?
  cases hcontent : r.content with
  | ok text => rfl
  | error cause => simp [hcontent] at h

/-- After the walk the unread files are in the way, and nothing else. -/
theorem obstacles_eq (hscoped : ¬p.isUnscoped) (d : Disk) :
    p.obstacles d = (Walk.ofDisk d p.skipDirs p.base).obstacles ++ p.unreadObstacles d := by
  rw [obstacles, if_neg hscoped]
  dsimp only [readings]
  rw [Walk.files_ofDisk, unreadObstacles, unread, List.filter_map, List.map_map, List.filterMap_map,
    List.filterMap_filter, List.filterMap_filter]
  congr 1
  refine List.filterMap_congr fun names _ => ?_
  rw [Function.comp_apply, Function.comp_apply]
  by_cases hread : (p.read d (walkPath names)).text?.isSome
  · simp [hread, obstacle?_of_isSome_text? hread]
  · simp [hread]

theorem exists_of_mem_unreadObstacles {o : Obstacle} (h : o ∈ p.unreadObstacles d) :
    ∃ path place cause, o = .onReading path place cause ∧ hasExtension p.extensions path := by
  obtain ⟨names, hn, ho⟩ := List.mem_filterMap.mp h
  obtain ⟨_, hext, _⟩ := mem_unread_iff.mp hn
  unfold Reading.obstacle? at ho
  split at ho
  next => simp at ho
  next => exact ⟨_, _, _, (Option.some.inj ho).symm, hext⟩

/-- Notes about the walk and notes about the reading are told apart by how they begin. -/
theorem issue_onWalk_ne (path path' place place' : String) (cause cause' : DiskFault) :
    (Obstacle.onWalk path place cause).issue ≠ (Obstacle.onReading path' place' cause').issue := by
  intro heq
  have hmessage : "IO error for operation on " ++ place ++ ": " ++ cause.text =
      "I/O error: " ++ cause'.text ++ " (path: " ++ place' ++ ")" := congrArg Issue.message heq
  have hsecond := congrArg (fun text => text.toList[1]?) hmessage
  simp only [String.append_assoc, String.toList_append] at hsecond
  rw [List.getElem?_append_left (by decide), List.getElem?_append_left (by decide)] at hsecond
  exact absurd hsecond (by decide)

/-- What stands for an unknown path has no extension. -/
theorem issue_lost_ne {path : String} (h : hasExtension p.extensions path) (place : String)
    (cause cause' : DiskFault) :
    (Obstacle.lost cause).issue ≠ (Obstacle.onReading path place cause').issue := by
  intro heq
  have hpath : ScanFault.unknownPlace = path := congrArg Issue.path heq
  have hpoint := point_mem_leaf_of_hasExtension h
  rw [← hpath] at hpoint
  exact absurd hpoint (by decide)

theorem issue_ne_of_mem_walk {o other : Obstacle}
    (h : o ∈ (Walk.ofDisk d p.skipDirs p.base).obstacles) (h' : other ∈ p.unreadObstacles d) :
    o.issue ≠ other.issue := by
  obtain ⟨path, place, cause, rfl, hext⟩ := exists_of_mem_unreadObstacles h'
  obtain ⟨sight, _, ho⟩ := List.mem_filterMap.mp h
  cases sight with
  | file names => simp [walkObstacle?] at ho
  | blocked names cause =>
    cases Option.some.inj ho
    exact issue_onWalk_ne _ _ _ _ _ _
  | lost names cause =>
    cases Option.some.inj ho
    exact issue_lost_ne hext _ _ _

theorem issues_withoutUnread (legal : d.root.Legal)
    (hfree : ∀ names ∈ p.counted d, ¬p.ReadsUnread d names) :
    (p.obstacles (p.withoutUnread d)).map (·.issue) =
      ((p.obstacles d).map (·.issue)).filter (· ∉ (p.unreadObstacles d).map (·.issue)) := by
  by_cases hscoped : p.isUnscoped
  · simp [obstacles, hscoped]
  · have hnone : p.unreadObstacles (p.withoutUnread d) = [] := by
      rw [unreadObstacles, unread_withoutUnread legal hscoped hfree, List.filterMap_nil]
    have hwalk : ((Walk.ofDisk d p.skipDirs p.base).obstacles.map (·.issue)).filter
        (· ∉ (p.unreadObstacles d).map (·.issue)) =
        (Walk.ofDisk d p.skipDirs p.base).obstacles.map (·.issue) := by
      refine List.filter_eq_self.mpr fun issue hi => decide_eq_true fun hmem => ?_
      obtain ⟨o, ho, rfl⟩ := List.mem_map.mp hi
      obtain ⟨other, hother, heq⟩ := List.mem_map.mp hmem
      exact issue_ne_of_mem_walk ho hother heq.symm
    have hunread : ((p.unreadObstacles d).map (·.issue)).filter
        (· ∉ (p.unreadObstacles d).map (·.issue)) = [] :=
      List.filter_eq_nil_iff.mpr fun issue hi hout => of_decide_eq_true hout hi
    rw [obstacles_eq hscoped, obstacles_eq hscoped, walk_obstacles_withoutUnread legal, hnone,
      List.append_nil, List.map_append, List.filter_append, hwalk, hunread, List.append_nil]

/-- A survey that passes over what it cannot read ignores the unread files exactly if no path of a
counted file leads to one of them. -/
theorem ignoresUnread_iff_counted (legal : d.root.Legal) (hmode : p.mode = .bestEffort) :
    p.IgnoresUnread d ↔ ∀ names ∈ p.counted d, ¬p.ReadsUnread d names := by
  constructor
  · rintro ⟨s, s', hs, hs', hfiles, _⟩ names hn hreads
    rw [survey_files hs, survey_files hs', counted_withoutUnread legal] at hfiles
    have hlength := congrArg List.length hfiles
    simp only [List.length_map, List.length_filter_eq_length_iff] at hlength
    obtain ⟨text, htext⟩ := isSome_text?_read_iff.mp (hlength names hn)
    exact ((readLenient_withoutUnread_iff legal).mp htext).2 hreads
  · intro hfree
    have hsame : ∀ contents issues issues',
        (p.ofContents contents issues').files = (p.ofContents contents issues).files ∧
          (p.ofContents contents issues').tree = (p.ofContents contents issues).tree ∧
          (p.ofContents contents issues').records = (p.ofContents contents issues).records :=
      fun _ _ _ => ⟨rfl, rfl, rfl⟩
    have hleft := survey_of_bestEffort hmode (p.withoutUnread d)
    rw [contents_withoutUnread legal hfree] at hleft
    obtain ⟨hfiles, htree, hrecords⟩ := hsame (p.contents d) ((p.obstacles d).map (·.issue))
      ((p.obstacles (p.withoutUnread d)).map (·.issue))
    exact ⟨_, _, survey_of_bestEffort hmode d, hleft, hfiles, htree, hrecords,
      issues_withoutUnread legal hfree⟩

/-- The path of a file without backslashes on its way leads to that file itself. -/
theorem not_readsUnread_of_free (legal : d.root.Legal) (h : names ∈ p.counted d)
    (free : ∀ name ∈ names, '\\' ∉ name.toList) : ¬p.ReadsUnread d names := by
  obtain ⟨b, found, hbase, hfound, hnames⟩ := reads_where_met legal h free
  rintro ⟨other, hother, hplace⟩
  cases hfound.symm.trans hother
  rw [hnames, mem_unreadPlaces_iff hbase] at hplace
  exact not_mem_unread_of_mem_counted h hplace

/-- A survey of a legal disk that passes over what it cannot read comes out as if the unread files
were not there exactly if no counted file with backslashes on its way is read from one of them. -/
theorem survey_ignoresUnread_iff (legal : d.root.Legal) (hmode : p.mode = .bestEffort) :
    p.IgnoresUnread d ↔ ∀ names ∈ p.counted d, (∃ name ∈ names, '\\' ∈ name.toList) →
      ¬p.ReadsUnread d names := by
  rw [ignoresUnread_iff_counted legal hmode]
  constructor
  · intro hfree names hn _
    exact hfree names hn
  · intro hmarked names hn
    by_cases hmark : ∃ name ∈ names, '\\' ∈ name.toList
    · exact hmarked names hn hmark
    · exact not_readsUnread_of_free legal hn fun name hname hmem => hmark ⟨name, hname, hmem⟩

/-- A name with a backslash can give a file a path through a link. What is read there is another
file, which cannot be read under its own path. -/
theorem survey_not_ignoresUnread_of_link :
    let d : Disk := ⟨.folder true [("d\\e", .folder true [("b.ts", .file true [])]),
      ("l", .link "d\\e"), ("l\\b.ts", .file true [])], "/"⟩
    let p : Plan := ⟨"/", ["ts"], [⟨"()", .ofExpr (.group 1 .empty)⟩], .ofNames [], none,
      .bestEffort⟩
    d.root.Legal ∧ p.mode = .bestEffort ∧ p.unreadPlaces d = [["d\\e", "b.ts"]] ∧
      ¬p.IgnoresUnread d := by
  intro d p
  have legal : d.root.Legal := by
    simp only [d, DiskEntry.Legal, DiskEntry.LegalIn]
    decide
  have hplaces : p.unreadPlaces d = [["d\\e", "b.ts"]] := by decide +kernel
  have hcounted : p.counted d = [["l\\b.ts"]] := by decide +kernel
  have hway : (d.look true (Place.join p.base (walkPath ["l\\b.ts"]))).toOption.map (·.names) =
      some ["d\\e", "b.ts"] := by decide +kernel
  refine ⟨legal, rfl, hplaces, ?_⟩
  rw [survey_ignoresUnread_iff legal rfl]
  intro hall
  have hfree := hall ["l\\b.ts"] (by simp [hcounted]) ⟨_, List.mem_cons_self, by decide⟩
  obtain ⟨found, hlook, hnames⟩ := exists_ok_of_toOption hway
  exact hfree ⟨found, hlook, by rw [hnames, hplaces]; exact List.mem_cons_self⟩

end ImportSurvey.Plan
