import ImportSurvey.Proofs.DiskLook

namespace ImportSurvey

namespace DiskEntry

def isFile : DiskEntry → Bool
  | .file _ _ => true
  | _ => false

mutual

/-- Takes the files away whose names, counted from the root, are gone. The names of the entry itself
are given, and it is left where it is. -/
def remove (gone : List String → Bool) (names : List String) : DiskEntry → DiskEntry
  | .file readable content => .file readable content
  | .link target => .link target
  | .folder readable entries => .folder readable (removeIn gone names entries)
  | .lost cause => .lost cause

def removeIn (gone : List String → Bool) (names : List String) :
    List (String × DiskEntry) → List (String × DiskEntry)
  | [] => []
  | (name, e) :: rest =>
    if e.isFile && gone (names ++ [name]) then removeIn gone names rest
    else (name, e.remove gone (names ++ [name])) :: removeIn gone names rest

end

variable {gone : List String → Bool} {names : List String}

@[simp]
theorem isFolder_remove (e : DiskEntry) : (e.remove gone names).isFolder = e.isFolder := by
  cases e <;> simp [remove, isFolder]

@[simp]
theorem fault?_remove (e : DiskEntry) : (e.remove gone names).fault? = e.fault? := by
  cases e <;> simp [remove, fault?]

theorem fault?_of_isFile {e : DiskEntry} (h : e.isFile) : e.fault? = none := by
  cases e <;> simp_all [isFile, fault?]

/-- A listing breaks off as before: no file is lost. -/
@[simp]
theorem breakOff?_removeIn (entries : List (String × DiskEntry)) :
    breakOff? (removeIn gone names entries) = breakOff? entries := by
  unfold breakOff?
  induction entries with
  | nil => rw [removeIn]
  | cons entry rest ih =>
    obtain ⟨name, e⟩ := entry
    rw [removeIn]
    split
    next hgone =>
      have hfile : e.isFile := by simp_all
      rw [ih, List.findSome?_cons, fault?_of_isFile hfile]
    next => rw [List.findSome?_cons, List.findSome?_cons, fault?_remove, ih]

theorem remove_eq_file_iff {e : DiskEntry} {readable : Bool} {content : List UInt8} :
    e.remove gone names = .file readable content ↔ e = .file readable content := by
  cases e <;> simp [remove]

theorem remove_eq_link_iff {e : DiskEntry} {target : String} :
    e.remove gone names = .link target ↔ e = .link target := by
  cases e <;> simp [remove]

theorem remove_eq_folder_iff {e : DiskEntry} {readable : Bool}
    {entries : List (String × DiskEntry)} :
    e.remove gone names = .folder readable entries ↔
      ∃ all, e = .folder readable all ∧ removeIn gone names all = entries := by
  cases e <;> simp [remove, and_assoc]

mutual

theorem remove_eq_self (hnone : ∀ names, gone names = false) (names : List String) :
    (e : DiskEntry) → e.remove gone names = e
  | .file readable content => by rw [remove]
  | .link target => by rw [remove]
  | .folder readable entries => by rw [remove, removeIn_eq_self hnone names entries]
  | .lost cause => by rw [remove]

theorem removeIn_eq_self (hnone : ∀ names, gone names = false) (names : List String) :
    (entries : List (String × DiskEntry)) → removeIn gone names entries = entries
  | [] => by rw [removeIn]
  | (name, e) :: rest => by
    rw [removeIn, hnone, Bool.and_false, if_neg Bool.false_ne_true, remove_eq_self hnone _ e,
      removeIn_eq_self hnone names rest]

end

/-- Under a name there is what was there before, unless that is a file that is gone. -/
theorem lookup_removeIn_iff {entries : List (String × DiskEntry)} {name : String} {e : DiskEntry}
    (legal : LegalIn entries) :
    (removeIn gone names entries).lookup name = some e ↔
      ∃ all, entries.lookup name = some all ∧ ¬(all.isFile ∧ gone (names ++ [name])) ∧
        e = all.remove gone (names ++ [name]) := by
  induction entries with
  | nil => simp [removeIn]
  | cons entry rest ih =>
    obtain ⟨first, inner⟩ := entry
    obtain ⟨_, _, hsorted, hrest⟩ := legal
    rw [removeIn, List.lookup_cons]
    by_cases hname : name = first
    · subst hname
      have habsent : rest.lookup name = none := by
        refine List.lookup_eq_none_iff.mpr fun other ho => ?_
        simpa using String.ne_of_lt (hsorted other ho)
      have hnone : (removeIn gone names rest).lookup name ≠ some e :=
        mt (ih hrest).mp (by simp [habsent])
      by_cases hgone : inner.isFile ∧ gone (names ++ [name])
      · simp [hgone.1, hgone.2, hnone]
      · rw [if_neg (by simpa using hgone)]
        simp only [List.lookup_cons, beq_self_eq_true, Option.some.injEq, exists_eq_left', hgone,
          not_false_eq_true, true_and]
        exact eq_comm
    · rw [beq_false_of_ne hname]
      split
      next => exact ih hrest
      next =>
        rw [List.lookup_cons, beq_false_of_ne hname]
        exact ih hrest

end DiskEntry

namespace Disk

/-- The disk without the files that are gone. -/
def remove (d : Disk) (gone : List String → Bool) : Disk := ⟨d.root.remove gone [], d.workFolder⟩

/-- What is left of what stands somewhere. -/
def Found.remove (found : Found) (gone : List String → Bool) : Found :=
  ⟨found.names, found.entry.remove gone found.names⟩

/-- A file that is gone. -/
def Found.IsGone (gone : List String → Bool) (found : Found) : Prop :=
  found.entry.isFile ∧ gone found.names

/-- The folders of a trail without the files that are gone. -/
def Trail.remove (gone : List String → Bool) : Trail → Trail
  | [] => []
  | level :: outer =>
    { level with
      entries := DiskEntry.removeIn gone (Trail.names (level :: outer)) level.entries } ::
      Trail.remove gone outer

variable {d : Disk} {gone : List String → Bool} {followLast : Bool} {links : Nat} {trail : Trail}
  {parts : List String} {found : Found}

theorem remove_eq_self (hnone : ∀ names, gone names = false) : d.remove gone = d := by
  rw [remove, DiskEntry.remove_eq_self hnone]

@[simp]
theorem Trail.names_remove (trail : Trail) : Trail.names (trail.remove gone) = trail.names := by
  have hnames : (Trail.remove gone trail).map (·.name) = trail.map (·.name) := by
    induction trail with
    | nil => rfl
    | cons level outer ih => simp [remove, ih]
  simp only [names, List.map_drop, List.map_reverse, hnames]

theorem Trail.found_remove (trail : Trail) :
    Trail.found (trail.remove gone) = trail.found.remove gone := by
  cases trail with
  | nil => simp [remove, found, Found.remove, DiskEntry.remove, DiskEntry.removeIn]
  | cons level outer =>
    have hnames : Trail.names (remove gone (level :: outer)) = names (level :: outer) :=
      names_remove _
    rw [remove] at hnames ⊢
    simp [found, Found.remove, DiskEntry.remove, hnames]

theorem Trail.not_isGone_found (trail : Trail) : ¬trail.found.IsGone gone := by
  cases trail <;> simp [found, Found.IsGone, DiskEntry.isFile]

theorem Trail.outer_remove (trail : Trail) :
    Trail.outer (trail.remove gone) = trail.outer.remove gone := by
  match trail with
  | [] => rfl
  | [_] => rfl
  | _ :: _ :: _ => rfl

@[simp]
theorem Trail.searchable_remove (trail : Trail) :
    Trail.searchable (trail.remove gone) = trail.searchable := by
  cases trail <;> rfl

theorem rootTrail_remove (d : Disk) : (d.remove gone).rootTrail = d.rootTrail.remove gone := by
  unfold rootTrail remove
  cases d.root with
  | file readable content => rfl
  | link target => rfl
  | folder readable entries => simp [DiskEntry.remove, Trail.remove, Trail.names]
  | lost cause => rfl

theorem start_remove (d : Disk) (trail : Trail) (place : String) :
    (d.remove gone).start (trail.remove gone) place = (d.start trail place).remove gone := by
  unfold start
  split
  next => exact rootTrail_remove d
  next => rfl

theorem Trail.holds_remove_iff {name : String} {e : DiskEntry} (legal : trail.Legal) :
    Trail.Holds (trail.remove gone) name e ↔
      ∃ all, trail.Holds name all ∧ ¬(all.isFile ∧ gone (trail.names ++ [name])) ∧
        e = all.remove gone (trail.names ++ [name]) := by
  constructor
  · rintro ⟨hord, hshort, level, outer, htrail, hread, hlookup⟩
    cases trail with
    | nil => simp [Trail.remove] at htrail
    | cons first rest =>
      obtain ⟨rfl, rfl⟩ := List.cons.inj htrail
      obtain ⟨all, hall, hleft⟩ :=
        (DiskEntry.lookup_removeIn_iff (legal first List.mem_cons_self)).mp hlookup
      exact ⟨all, ⟨hord, hshort, _, _, rfl, hread, hall⟩, hleft⟩
  · rintro ⟨all, ⟨hord, hshort, level, outer, rfl, hread, hall⟩, hleft⟩
    refine ⟨hord, hshort, _, _, rfl, hread, ?_⟩
    exact (DiskEntry.lookup_removeIn_iff (legal level List.mem_cons_self)).mpr ⟨all, hall, hleft⟩

theorem Trail.Holds.remove_folder {name : String} {readable : Bool}
    {entries : List (String × DiskEntry)} (h : trail.Holds name (.folder readable entries))
    (legal : trail.Legal) :
    Trail.Holds (trail.remove gone) name
      (.folder readable (DiskEntry.removeIn gone (trail.names ++ [name]) entries)) :=
  (Trail.holds_remove_iff legal).mpr ⟨_, h, by simp [DiskEntry.isFile], by rw [DiskEntry.remove]⟩

theorem Trail.Holds.remove_link {name target : String} (h : trail.Holds name (.link target))
    (legal : trail.Legal) : Trail.Holds (trail.remove gone) name (.link target) :=
  (Trail.holds_remove_iff legal).mpr ⟨_, h, by simp [DiskEntry.isFile], by rw [DiskEntry.remove]⟩

theorem Trail.remove_cons {name : String} {readable : Bool} {entries : List (String × DiskEntry)}
    (hne : trail ≠ []) :
    Trail.remove gone (⟨name, readable, entries⟩ :: trail) =
      ⟨name, readable, DiskEntry.removeIn gone (trail.names ++ [name]) entries⟩ ::
        trail.remove gone := by
  rw [Trail.remove, Trail.names_cons hne]

/-- The parts still lead to what was found, unless it is a file that is gone. -/
theorem Reaches.remove (h : Reaches d followLast links trail parts found) (hroot : d.root.Legal)
    (legal : trail.Legal) (hleft : ¬found.IsGone gone) :
    Reaches (d.remove gone) followLast links (trail.remove gone) parts (found.remove gone) := by
  induction h with
  | here =>
    rw [← Trail.found_remove]
    exact .here
  | idle hidle _ ih =>
    rw [← Trail.searchable_remove] at hidle
    exact .idle hidle (ih legal hleft)
  | climb hsearch _ ih =>
    have hrest := ih (Trail.legal_outer legal) hleft
    rw [← Trail.searchable_remove] at hsearch
    rw [← Trail.outer_remove] at hrest
    exact .climb hsearch hrest
  | folder he _ ih =>
    have hrest := ih (he.legal_cons legal) hleft
    rw [Trail.remove_cons he.ne_nil] at hrest
    exact .folder (he.remove_folder legal) hrest
  | link he hgo hne _ ih =>
    have hrest := ih (legal_start hroot legal _) hleft
    rw [← start_remove] at hrest
    exact .link (he.remove_link legal) hgo hne hrest
  | lastLink he hstay =>
    rw [Found.remove, DiskEntry.remove, ← Trail.names_remove]
    exact .lastLink (he.remove_link legal) hstay
  | file he =>
    have hhere := (Trail.holds_remove_iff legal).mpr ⟨_, he, hleft, rfl⟩
    rw [DiskEntry.remove] at hhere
    rw [Found.remove, DiskEntry.remove, ← Trail.names_remove]
    exact .file hhere

/-- On a disk without some files the parts lead nowhere that they did not lead to before. -/
theorem Reaches.exists_of_remove {left : Found} (hroot : d.root.Legal) (legal : trail.Legal)
    (h : Reaches (d.remove gone) followLast links (trail.remove gone) parts left) :
    ∃ found, Reaches d followLast links trail parts found ∧ ¬found.IsGone gone ∧
      left = found.remove gone := by
  generalize htrail : Trail.remove gone trail = rest at h
  induction h generalizing trail with
  | here =>
    subst htrail
    exact ⟨_, .here, trail.not_isGone_found, Trail.found_remove trail⟩
  | idle hidle _ ih =>
    subst htrail
    rw [Trail.searchable_remove] at hidle
    obtain ⟨found, hfound, hleft⟩ := ih legal rfl
    exact ⟨found, .idle hidle hfound, hleft⟩
  | climb hsearch _ ih =>
    subst htrail
    rw [Trail.searchable_remove] at hsearch
    obtain ⟨found, hfound, hleft⟩ := ih (Trail.legal_outer legal) (Trail.outer_remove trail).symm
    exact ⟨found, .climb hsearch hfound, hleft⟩
  | folder he _ ih =>
    subst htrail
    obtain ⟨all, hall, _, heq⟩ := (Trail.holds_remove_iff legal).mp he
    obtain ⟨entries, rfl, rfl⟩ := DiskEntry.remove_eq_folder_iff.mp heq.symm
    obtain ⟨found, hfound, hleft⟩ := ih (hall.legal_cons legal) (Trail.remove_cons hall.ne_nil)
    exact ⟨found, .folder hall hfound, hleft⟩
  | link he hgo hne _ ih =>
    subst htrail
    obtain ⟨all, hall, _, heq⟩ := (Trail.holds_remove_iff legal).mp he
    cases DiskEntry.remove_eq_link_iff.mp heq.symm
    obtain ⟨found, hfound, hleft⟩ := ih (legal_start hroot legal _) (start_remove ..).symm
    exact ⟨found, .link hall hgo hne hfound, hleft⟩
  | lastLink he hstay =>
    subst htrail
    obtain ⟨all, hall, _, heq⟩ := (Trail.holds_remove_iff legal).mp he
    cases DiskEntry.remove_eq_link_iff.mp heq.symm
    refine ⟨_, .lastLink hall hstay, by simp [Found.IsGone, DiskEntry.isFile], ?_⟩
    simp [Found.remove, DiskEntry.remove]
  | file he =>
    subst htrail
    obtain ⟨all, hall, hkept, heq⟩ := (Trail.holds_remove_iff legal).mp he
    cases DiskEntry.remove_eq_file_iff.mp heq.symm
    refine ⟨_, .file hall, hkept, ?_⟩
    simp [Found.remove, DiskEntry.remove]

/-- At a place there is what was there before, unless that is a file that is gone. -/
theorem look_remove_iff (legal : d.root.Legal) {place : String} {left : Found} :
    (d.remove gone).look followLast place = .ok left ↔
      ∃ found, d.look followLast place = .ok found ∧ ¬found.IsGone gone ∧
        left = found.remove gone := by
  have hfull : (d.remove gone).fullPlace place = d.fullPlace place := rfl
  have htrail := legal_rootTrail legal
  simp only [look_eq_ok_iff, hfull, rootTrail_remove]
  constructor
  · rintro ⟨hplace, hway⟩
    obtain ⟨found, hfound, hleft⟩ := hway.exists_of_remove legal htrail
    exact ⟨found, ⟨hplace, hfound⟩, hleft⟩
  · rintro ⟨found, ⟨hplace, hfound⟩, hkept, rfl⟩
    exact ⟨hplace, hfound.remove legal htrail hkept⟩

theorem readBytes_eq_ok_iff {place : String} {content : List UInt8} :
    d.readBytes place = .ok content ↔
      ∃ names, d.look true place = .ok ⟨names, .file true content⟩ := by
  unfold readBytes
  split <;> simp_all

theorem readBytes_remove_iff (legal : d.root.Legal) {place : String} {content : List UInt8} :
    (d.remove gone).readBytes place = .ok content ↔
      d.readBytes place = .ok content ∧
        ∀ found, d.look true place = .ok found → ¬gone found.names := by
  simp only [readBytes_eq_ok_iff, look_remove_iff legal]
  constructor
  · rintro ⟨names, found, hlook, hkept, hleft⟩
    obtain ⟨rfl, hentry⟩ := Found.mk.inj hleft
    have hfile : found.entry = .file true content := DiskEntry.remove_eq_file_iff.mp hentry.symm
    refine ⟨⟨found.names, by rw [hlook, ← hfile]⟩, fun other ho => ?_⟩
    cases hlook.symm.trans ho
    exact fun hgone => hkept ⟨by rw [hfile]; rfl, hgone⟩
  · rintro ⟨⟨names, hlook⟩, hkept⟩
    refine ⟨names, _, hlook, fun hgone => hkept _ hlook hgone.2, ?_⟩
    simp [Found.remove, DiskEntry.remove]

theorem readLenient_remove_iff (legal : d.root.Legal) {place text : String} :
    (d.remove gone).readLenient place = .ok text ↔
      d.readLenient place = .ok text ∧
        ∀ found, d.look true place = .ok found → ¬gone found.names := by
  have hmap : ∀ d : Disk, d.readLenient place = .ok text ↔
      ∃ content, d.readBytes place = .ok content ∧ Text.Utf8.lenient content = text := by
    intro d
    unfold readLenient
    cases d.readBytes place <;> simp [Except.map]
  simp only [hmap, readBytes_remove_iff legal]
  constructor
  · rintro ⟨content, ⟨hread, hkept⟩, htext⟩
    exact ⟨⟨content, hread, htext⟩, hkept⟩
  · rintro ⟨⟨content, hread, htext⟩, hkept⟩
    exact ⟨content, ⟨hread, hkept⟩, htext⟩

end Disk

/-- A file that is gone was met, on a walk from the folder with the given names. -/
def Sight.isGone (gone : List String → Bool) (front : List String) : Sight → Bool
  | .file names => gone (front ++ names)
  | .blocked _ _ => false
  | .lost _ _ => false

namespace DiskEntry

variable {skipped : String → Bool} {gone : List String → Bool}

mutual

theorem sights_remove (front names : List String) : (e : DiskEntry) →
    ¬(e.isFile ∧ gone (front ++ names)) →
    (e.remove gone (front ++ names)).sights skipped names =
      (e.sights skipped names).filter fun sight => !sight.isGone gone front
  | .file readable content => by
    intro hkept
    have hstays : gone (front ++ names) = false := by simpa [isFile] using hkept
    simp [remove, sights, Sight.isGone, hstays]
  | .link target => by simp [remove, sights]
  | .folder readable entries => by
    intro _
    cases readable with
    | false => simp [remove, sights, Sight.isGone]
    | true =>
      have hlost : ((breakOff? entries).toList.map (Sight.lost names)).filter
          (fun sight => !sight.isGone gone front) =
          (breakOff? entries).toList.map (.lost names) := by
        cases breakOff? entries <;> simp [Sight.isGone]
      rw [remove, sights, sights, if_pos rfl, if_pos rfl, breakOff?_removeIn, List.filter_append,
        hlost, sightsIn_remove front names entries]
  | .lost cause => by simp [remove, sights]

theorem sightsIn_remove (front names : List String) : (entries : List (String × DiskEntry)) →
    sightsIn skipped names (removeIn gone (front ++ names) entries) =
      (sightsIn skipped names entries).filter fun sight => !sight.isGone gone front
  | [] => by simp [removeIn, sightsIn]
  | (name, e) :: rest => by
    have hrest := sightsIn_remove front names rest
    rw [removeIn, sightsIn, List.filter_append, ← hrest, List.append_assoc]
    by_cases hgone : e.isFile ∧ gone (front ++ (names ++ [name]))
    · obtain ⟨hfile, hgone⟩ := hgone
      rw [if_pos (by simp [hfile, hgone])]
      cases e with
      | file readable content => simp [sights, isFolder, Sight.isGone, hgone]
      | link target => simp [isFile] at hfile
      | folder readable entries => simp [isFile] at hfile
      | lost cause => simp [isFile] at hfile
    · have hfirst := sights_remove front (names ++ [name]) e hgone
      rw [if_neg (by simpa using hgone), sightsIn, isFolder_remove, hfirst]
      split
      next => rfl
      next => rfl

end

end DiskEntry

/-- A walk meets what it met before, apart from the files that are gone. -/
theorem Disk.sights_remove {d : Disk} (legal : d.root.Legal) {place : String} {b : Disk.Found}
    (hlook : d.look true place = .ok b) (hfolder : b.entry.isFolder) (skipped : String → Bool)
    (gone : List String → Bool) :
    (d.remove gone).sights skipped place =
      (d.sights skipped place).filter fun sight => !sight.isGone gone b.names := by
  have hkept : ¬b.entry.isFile := by
    obtain ⟨names, e⟩ := b
    cases e <;> simp_all [DiskEntry.isFolder, DiskEntry.isFile]
  have hleft : (d.remove gone).look true place = .ok (b.remove gone) :=
    (Disk.look_remove_iff legal).mpr ⟨b, hlook, fun hgone => hkept hgone.1, rfl⟩
  have hfolder' : (b.remove gone).entry.isFolder :=
    (DiskEntry.isFolder_remove b.entry).trans hfolder
  rw [Disk.sights_eq_of_look hleft hfolder', Disk.sights_eq_of_look hlook hfolder]
  have hentry : (b.entry.remove gone (b.names ++ [])).sights skipped [] =
      (b.entry.sights skipped []).filter fun sight => !sight.isGone gone b.names :=
    DiskEntry.sights_remove b.names [] b.entry fun hgone => hkept hgone.1
  rwa [List.append_nil] at hentry

end ImportSurvey
