import ImportSurvey.Proofs.CatalogLookup
import ImportSurvey.Proofs.CountedFiles
import ImportSurvey.Proofs.TextBytes

namespace ImportSurvey

namespace DiskEntry

/-- Names lead down from an entry to another one, be the folders between readable or not. -/
inductive Contains : DiskEntry → List String → DiskEntry → Prop
  | self {e : DiskEntry} : Contains e [] e
  | inner {readable : Bool} {entries : List (String × DiskEntry)} {name : String}
      {e found : DiskEntry} {names : List String} :
      (name, e) ∈ entries → Contains e names found →
      Contains (.folder readable entries) (name :: names) found

/-- Unless an entry is a folder that is closed or has something lost in it, all of it can be
listed. -/
def listable : DiskEntry → Bool
  | .folder readable entries => readable && (breakOff? entries).isNone
  | _ => true

/-- Every folder that cannot be listed is skipped, or lies in a folder that is. -/
def Open (skipped : String → Bool) (e : DiskEntry) : Prop :=
  ∀ names found, e.Contains names found → ¬found.listable → ∃ name ∈ names, skipped name

variable {skipped : String → Bool} {e found : DiskEntry} {names : List String}

/-- Nothing but a folder contains a folder. -/
theorem Contains.isFolder (h : e.Contains names found) (hfound : found.isFolder) : e.isFolder := by
  cases h with
  | self => exact hfound
  | inner _ _ => rfl

theorem isFolder_of_not_listable {e : DiskEntry} (h : ¬e.listable) : e.isFolder := by
  cases e with
  | folder readable entries => rfl
  | file readable content => exact absurd rfl h
  | link target => exact absurd rfl h
  | lost cause => exact absurd rfl h

theorem Contains.ne_nil {readable : Bool} {content : List UInt8}
    (h : e.Contains names (.file readable content)) (hfolder : e.isFolder) : names ≠ [] := by
  rintro rfl
  cases h
  exact Bool.false_ne_true hfolder

/-- An open folder is readable, and what it holds is open unless it is skipped. -/
theorem Open.folder {readable : Bool} {entries : List (String × DiskEntry)}
    (h : Open skipped (.folder readable entries)) : readable = true ∧
      ∀ name inner, (name, inner) ∈ entries → ¬(inner.isFolder ∧ skipped name) →
        Open skipped inner := by
  constructor
  · cases readable with
    | true => rfl
    | false => simpa [listable] using h [] _ .self
  · intro name inner hmem hkept names found hfound hclosed
    obtain ⟨other, ho, hskipped⟩ := h (name :: names) found (.inner hmem hfound) hclosed
    rcases List.mem_cons.mp ho with rfl | ho
    · exact absurd ⟨hfound.isFolder (isFolder_of_not_listable hclosed), hskipped⟩ hkept
    · exact ⟨other, ho, hskipped⟩

/-- The names that a walk shows lead to the files behind folders that are not skipped. What the file
itself is called does not matter. -/
theorem leads_iff_contains (hopen : Open skipped e) :
    Leads skipped e names ↔ (∃ readable content, e.Contains names (.file readable content)) ∧
      ∀ name ∈ names.dropLast, ¬skipped name := by
  constructor
  · intro h
    clear hopen
    induction h with
    | file => exact ⟨⟨_, _, .self⟩, by simp⟩
    | @folder entries name inner names hmem hkept hleads ih =>
      obtain ⟨⟨readable, content, hfile⟩, hnames⟩ := ih
      refine ⟨⟨readable, content, .inner hmem hfile⟩, ?_⟩
      by_cases hne : names = []
      · simp [hne]
      · rw [List.dropLast_cons_of_ne_nil hne]
        intro other ho
        rcases List.mem_cons.mp ho with rfl | ho
        · exact fun hskipped => hkept ⟨hleads.isFolder hne, hskipped⟩
        · exact hnames other ho
  · rintro ⟨⟨readable, content, hfile⟩, hnames⟩
    generalize hfound : DiskEntry.file readable content = found at hfile
    induction hfile with
    | self =>
      subst hfound
      exact .file
    | @inner readable entries name inner found names hmem hrest ih =>
      subst hfound
      obtain ⟨rfl, hinner⟩ := hopen.folder
      have hkept : ¬(inner.isFolder ∧ skipped name) := by
        rintro ⟨hfolder, hskipped⟩
        rw [List.dropLast_cons_of_ne_nil (hrest.ne_nil hfolder)] at hnames
        exact hnames name List.mem_cons_self hskipped
      refine .folder hmem hkept (ih (hinner name inner hmem hkept) ?_ rfl)
      intro other ho
      have hne : names ≠ [] := List.ne_nil_of_mem ((List.dropLast_sublist names).subset ho)
      rw [List.dropLast_cons_of_ne_nil hne] at hnames
      exact hnames other (List.mem_cons_of_mem _ ho)

mutual

/-- Where a walk does not show a file there is a folder that cannot be listed, behind folders that
are not skipped. -/
theorem unlistable_of_mem_sights {front : List String} {sight : Sight}
    (hsight : sight.fileNames? = none) : (e : DiskEntry) → sight ∈ e.sights skipped front →
      ∃ more found, e.Contains more found ∧ ¬found.listable ∧ ∀ name ∈ more, ¬skipped name
  | .file readable content => by
    intro h
    cases List.mem_singleton.mp h
    simp [Sight.fileNames?] at hsight
  | .link target => by simp [sights]
  | .folder false entries => fun _ => ⟨[], _, .self, by simp [listable], by simp⟩
  | .folder true entries => by
    intro h
    rcases mem_sights_folder_iff.mp h with ⟨cause, hlost, rfl⟩ | h
    · exact ⟨[], _, .self, by simp [listable, hlost], by simp⟩
    · obtain ⟨name, inner, more, found, hmem, hname, hfound, hclosed, hmore⟩ :=
        unlistable_of_mem_sightsIn hsight entries h
      refine ⟨name :: more, found, .inner hmem hfound, hclosed, ?_⟩
      simpa [hname] using hmore
  | .lost cause => by simp [sights]

theorem unlistable_of_mem_sightsIn {front : List String} {sight : Sight}
    (hsight : sight.fileNames? = none) : (entries : List (String × DiskEntry)) →
      sight ∈ sightsIn skipped front entries →
      ∃ name inner more found, (name, inner) ∈ entries ∧ ¬skipped name ∧
        inner.Contains more found ∧ ¬found.listable ∧ ∀ name ∈ more, ¬skipped name
  | [] => by simp [sightsIn]
  | (name, inner) :: rest => by
    intro h
    rw [sightsIn] at h
    rcases List.mem_append.mp h with h | h
    · split at h
      next => simp at h
      next hkept =>
        obtain ⟨more, found, hfound, hclosed, hmore⟩ := unlistable_of_mem_sights hsight inner h
        have hfolder := hfound.isFolder (isFolder_of_not_listable hclosed)
        have hname : ¬skipped name := by simpa [hfolder] using hkept
        exact ⟨name, inner, more, found, List.mem_cons_self, hname, hfound, hclosed, hmore⟩
    · obtain ⟨other, inner, more, found, hmem, hrest⟩ := unlistable_of_mem_sightsIn hsight rest h
      exact ⟨other, inner, more, found, List.mem_cons_of_mem _ hmem, hrest⟩

end

theorem mem_sightsIn_of_mem {front : List String} {entries : List (String × DiskEntry)}
    {name : String} {inner : DiskEntry} {sight : Sight} (hmem : (name, inner) ∈ entries)
    (hkept : ¬(inner.isFolder ∧ skipped name))
    (h : sight ∈ inner.sights skipped (front ++ [name])) :
    sight ∈ sightsIn skipped front entries := by
  induction entries with
  | nil => simp at hmem
  | cons entry rest ih =>
    rw [sightsIn, List.mem_append]
    rcases List.mem_cons.mp hmem with rfl | hmem
    · left
      rwa [if_neg (by simpa using hkept)]
    · exact .inr (ih hmem)

theorem exists_sight_of_not_listable (h : ¬e.listable) (front : List String) :
    ∃ sight ∈ e.sights skipped front, sight.fileNames? = none := by
  cases e with
  | file readable content => exact absurd rfl h
  | link target => exact absurd rfl h
  | lost cause => exact absurd rfl h
  | folder readable entries =>
    cases readable with
    | false => exact ⟨.blocked front .denied, by simp [sights], rfl⟩
    | true =>
      obtain ⟨cause, hcause⟩ : ∃ cause, breakOff? entries = some cause := by
        simpa [listable, Option.ne_none_iff_exists'] using h
      exact ⟨.lost front cause, mem_sights_folder_iff.mpr (.inl ⟨cause, hcause, rfl⟩), rfl⟩

theorem exists_sight_of_contains (h : e.Contains names found) (hclosed : ¬found.listable)
    (hnames : ∀ name ∈ names, ¬skipped name) (front : List String) :
    ∃ sight ∈ e.sights skipped front, sight.fileNames? = none := by
  induction h generalizing front with
  | self => exact exists_sight_of_not_listable hclosed front
  | @inner readable entries name e found names hmem _ ih =>
    cases readable with
    | false => exact exists_sight_of_not_listable (by simp [listable]) front
    | true =>
      obtain ⟨hname, hrest⟩ := List.forall_mem_cons.mp hnames
      obtain ⟨sight, hsight, hnone⟩ := ih hclosed hrest (front ++ [name])
      have hin := mem_sightsIn_of_mem hmem (fun h => hname h.2) hsight
      exact ⟨sight, mem_sights_folder_iff.mpr (.inr hin), hnone⟩

/-- A walk shows nothing but files exactly if what it walks through is open. -/
theorem open_iff : Open skipped e ↔ ∀ sight ∈ e.sights skipped [], sight.fileNames? ≠ none := by
  constructor
  · intro hopen sight h hnone
    obtain ⟨more, found, hfound, hclosed, hmore⟩ := unlistable_of_mem_sights hnone e h
    obtain ⟨name, hn, hskipped⟩ := hopen more found hfound hclosed
    exact hmore name hn hskipped
  · intro hfree names found hfound hclosed
    by_contra hnone
    have hnames : ∀ name ∈ names, ¬skipped name := fun name hn hskipped =>
      hnone ⟨name, hn, hskipped⟩
    obtain ⟨sight, hsight, hstop⟩ := exists_sight_of_contains hfound hclosed hnames []
    exact hfree sight hsight hstop

end DiskEntry

/-- A walk lists the files that an entry contains, except those behind a skipped folder, each once
and in the order of the bytes of the names that lead there. Nothing stops it. -/
structure Walk.Lists (w : Walk) (e : DiskEntry) (skipped : NameSet) : Prop where
  unhindered : w.obstacles = [] ∧ ∀ mode : WalkMode, mode.check w.obstacles = .ok ()
  mem_iff : ∀ file, file ∈ w.files ↔ ∃ names, file = Path.ofSegments names ∧
    (∃ readable content, e.Contains names (.file readable content)) ∧
      ∀ name ∈ names.dropLast, name ∉ skipped.names
  nodup : w.files.Nodup
  ordered : w.files.Pairwise fun a b =>
    (Path.segments a).map Text.bytes < (Path.segments b).map Text.bytes

variable {d : Disk} {base : String} {b : Disk.Found} {skipped : NameSet}

namespace Walk

theorem files_ofDisk_of_look (hbase : d.look true base = .ok b) (hfolder : b.entry.isFolder)
    (skipped : NameSet) : (ofDisk d skipped base).files =
      ((b.entry.sights skipped.contains []).filterMap Sight.fileNames?).map walkPath := by
  rw [files_ofDisk, Disk.sights_eq_of_look hbase hfolder]

theorem mem_shown_iff {e : DiskEntry} {names : List String} :
    names ∈ (e.sights skipped.contains []).filterMap Sight.fileNames? ↔
      e.Leads skipped.contains names := by
  rw [Sight.mem_fileNames?_iff, DiskEntry.mem_sights_iff]
  simp

theorem obstacles_ofDisk_of_look (hbase : d.look true base = .ok b) (hfolder : b.entry.isFolder)
    (hopen : b.entry.Open skipped.contains) : (ofDisk d skipped base).obstacles = [] := by
  change (d.sights skipped.contains base).filterMap (walkObstacle? base) = []
  rw [Disk.sights_eq_of_look hbase hfolder, List.filterMap_eq_nil_iff]
  intro sight hs
  cases sight with
  | file _ => rfl
  | blocked names cause => exact absurd rfl (DiskEntry.open_iff.mp hopen _ hs)
  | lost names cause => exact absurd rfl (DiskEntry.open_iff.mp hopen _ hs)

/-- The names that lead to a shown file are the segments of its path. -/
theorem segments_of_leads {e : DiskEntry} {names : List String}
    (h : e.Leads skipped.contains names) (hfolder : e.isFolder) (legal : e.Legal)
    (free : e.NamesAll fun name => '\\' ∉ name.toList)
    (hopen : e.Open skipped.contains) : Path.segments (walkPath names) = names := by
  obtain ⟨⟨_, _, hfile⟩, _⟩ := (DiskEntry.leads_iff_contains hopen).mp h
  exact segments_walkPath_of_free (hfile.ne_nil hfolder) (h.legalName legal) (h.forall_names free)

/-- A walk from a folder without closed folders in it, apart from skipped ones, lists its files. The
names of the files and of the start make no difference. -/
theorem ofDisk_lists (hbase : d.look true base = .ok b) (hfolder : b.entry.isFolder)
    (legal : b.entry.Legal) (free : b.entry.NamesAll fun name => '\\' ∉ name.toList)
    (hopen : b.entry.Open skipped.contains) : (ofDisk d skipped base).Lists b.entry skipped := by
  have hobstacles := obstacles_ofDisk_of_look hbase hfolder hopen
  have hfiles := files_ofDisk_of_look hbase hfolder skipped
  have hordered : (ofDisk d skipped base).files.Pairwise fun a b =>
      (Path.segments a).map Text.bytes < (Path.segments b).map Text.bytes := by
    rw [hfiles, List.pairwise_map]
    refine (Sight.pairwise_fileNames (DiskEntry.sights_sorted b.entry legal)).imp_of_mem ?_
    intro names others hn ho hlt
    rw [segments_of_leads (mem_shown_iff.mp hn) hfolder legal free hopen,
      segments_of_leads (mem_shown_iff.mp ho) hfolder legal free hopen]
    exact Text.map_bytes_lt_iff.mpr hlt
  refine ⟨⟨hobstacles, fun mode => ?_⟩, fun file => ?_, ?_, hordered⟩
  · rw [hobstacles]
    cases mode <;> rfl
  · have hskipped : ∀ name, name ∉ skipped.names ↔ ¬skipped.contains name := fun name =>
      not_congr Catalog.contains_iff.symm
    simp only [hfiles, List.mem_map, mem_shown_iff, hskipped,
      ← DiskEntry.leads_iff_contains hopen]
    refine exists_congr fun names => ?_
    constructor
    · rintro ⟨hleads, rfl⟩
      exact ⟨walkPath_of_free (hleads.forall_names free), hleads⟩
    · rintro ⟨rfl, hleads⟩
      exact ⟨hleads, walkPath_of_free (hleads.forall_names free)⟩
  · refine hordered.imp ?_
    rintro file _ hlt rfl
    exact List.lt_irrefl _ hlt

/-- A folder comes in the place of its name, before a file whose name goes on with a point. A file
and the start may have the name of a skipped folder, and a skipped folder may be closed. -/
theorem ofDisk_lists_build :
    let inner : DiskEntry := .folder true
      [("a", .folder true [("z", .file true [])]), ("a.ts", .file false []),
        ("build", .file true []), ("l", .link "a"), ("node_modules", .folder false []),
        ("src", .folder true [("node_modules", .folder true [("x.js", .file true [])])])]
    let d : Disk := ⟨.folder true [("build", inner)], "/"⟩
    let skipped := NameSet.ofNames ["build", "node_modules"]
    d.look true "/build" = .ok ⟨["build"], inner⟩ ∧
      (ofDisk d skipped "/build").files = ["a/z", "a.ts", "build"] ∧
      (ofDisk d skipped "/build").Lists inner skipped := by
  intro inner d skipped
  have hbase : d.look true "/build" = .ok ⟨["build"], inner⟩ :=
    Disk.look_of_reaches (by simp) (by decide) (by decide) (by decide) <|
      .idle (.inl rfl) (.folder ⟨by decide, by decide, _, _, rfl, rfl, rfl⟩ .here)
  have hsights : inner.sights skipped.contains [] =
      [.file ["a", "z"], .file ["a.ts"], .file ["build"]] := by
    decide
  have hfiles : (ofDisk d skipped "/build").files = ["a/z", "a.ts", "build"] := by
    rw [files_ofDisk_of_look hbase rfl, hsights]
    decide
  have hlegal : inner.Legal := by
    simp only [inner, DiskEntry.Legal, DiskEntry.LegalIn]
    decide
  have hfree : inner.NamesAll fun name => '\\' ∉ name.toList := by
    simp only [inner, DiskEntry.NamesAll, DiskEntry.NamesAllIn]
    decide
  have hopen : inner.Open skipped.contains := by
    rw [DiskEntry.open_iff, hsights]
    simp [Sight.fileNames?]
  exact ⟨hbase, hfiles, ofDisk_lists hbase rfl hlegal hfree hopen⟩

end Walk

end ImportSurvey
