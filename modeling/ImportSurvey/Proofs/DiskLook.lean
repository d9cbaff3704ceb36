import ImportSurvey.Proofs.DiskStands
import ImportSurvey.Proofs.PlaceParts
import ImportSurvey.Proofs.WalkSights

namespace ImportSurvey.Disk

variable {d : Disk} {followLast : Bool} {links : Nat} {trail : Trail} {parts : List String}
  {found : Found}

/-- All folders on the way are legal. -/
def Trail.Legal (trail : Trail) : Prop := ∀ level ∈ trail, DiskEntry.LegalIn level.entries

theorem Trail.legal_outer (legal : trail.Legal) : trail.outer.Legal := by
  match trail with
  | [] => exact legal
  | [_] => exact legal
  | _ :: level :: rest => exact fun other ho => legal other (List.mem_cons_of_mem _ ho)

theorem legal_rootTrail (legal : d.root.Legal) : d.rootTrail.Legal := by
  unfold rootTrail
  cases hroot : d.root with
  | folder readable entries =>
    rw [hroot] at legal
    intro level hl
    cases List.mem_singleton.mp hl
    exact legal
  | file readable content => simp [Trail.Legal]
  | link target => simp [Trail.Legal]
  | lost cause => simp [Trail.Legal]

theorem legal_start (legal : d.root.Legal) (htrail : trail.Legal) (place : String) :
    (d.start trail place).Legal := by
  unfold start
  split
  next => exact legal_rootTrail legal
  next => exact htrail

theorem Trail.Holds.legal {name : String} {e : DiskEntry} (h : trail.Holds name e)
    (legal : trail.Legal) : e.Legal := by
  obtain ⟨level, outer, rfl, _, hlookup⟩ := h.lookup
  exact (DiskEntry.legal_of_mem (legal level List.mem_cons_self)
    (DiskEntry.mem_of_lookup hlookup)).2

theorem Trail.Holds.legal_cons {name : String} {readable : Bool}
    {entries : List (String × DiskEntry)} (h : trail.Holds name (.folder readable entries))
    (legal : trail.Legal) : Trail.Legal (⟨name, readable, entries⟩ :: trail) := by
  intro level hl
  rcases List.mem_cons.mp hl with rfl | hl
  · exact h.legal legal
  · exact legal level hl

/-- If what is found without following the last link is no link, following it changes nothing. -/
theorem Reaches.of_not_link (h : Reaches d false links trail parts found)
    (hno : ∀ target, found.entry ≠ .link target) : Reaches d true links trail parts found := by
  induction h with
  | here => exact .here
  | idle hidle _ ih => exact .idle hidle (ih hno)
  | climb hsearch _ ih => exact .climb hsearch (ih hno)
  | folder he _ ih => exact .folder he (ih hno)
  | link he _ hne _ ih => exact .link he (.inl rfl) hne (ih hno)
  | lastLink he _ => exact absurd rfl (hno _)
  | file he => exact .file he

/-- Without following the last link there is what was found, or the link that leads there. -/
theorem Reaches.exists_unfollowed (h : Reaches d true links trail parts found) :
    ∃ last, Reaches d false links trail parts last ∧
      (last = found ∨ ∃ target, last.entry = .link target) := by
  induction h with
  | here => exact ⟨_, .here, .inl rfl⟩
  | idle hidle _ ih =>
    obtain ⟨last, hlast, hfound⟩ := ih
    exact ⟨last, .idle hidle hlast, hfound⟩
  | climb hsearch _ ih =>
    obtain ⟨last, hlast, hfound⟩ := ih
    exact ⟨last, .climb hsearch hlast, hfound⟩
  | folder he _ ih =>
    obtain ⟨last, hlast, hfound⟩ := ih
    exact ⟨last, .folder he hlast, hfound⟩
  | @link _ _ _ rest _ _ he _ hne _ ih =>
    by_cases hrest : rest = []
    · subst hrest
      exact ⟨_, .lastLink he (by simp), .inr ⟨_, rfl⟩⟩
    · obtain ⟨last, hlast, hfound⟩ := ih
      exact ⟨last, .link he (.inr hrest) hne hlast, hfound⟩
  | lastLink _ hstay => exact absurd rfl hstay
  | file he => exact ⟨_, .file he, .inl rfl⟩

/-- Where the first parts lead to a folder, the others go on from there. -/
theorem follow_append (h : Reaches d true links trail parts found)
    (hfolder : found.entry.isFolder) :
    ∃ fewer inner, Trail.found inner = found ∧
      ∀ more, d.follow true links trail (parts ++ more) = d.follow true fewer inner more := by
  induction h with
  | here => exact ⟨_, _, rfl, fun more => rfl⟩
  | idle hidle _ ih =>
    obtain ⟨fewer, inner, hfound, hgo⟩ := ih hfolder
    exact ⟨fewer, inner, hfound, fun more => (follow_idle hidle).trans (hgo more)⟩
  | climb hsearch _ ih =>
    obtain ⟨fewer, inner, hfound, hgo⟩ := ih hfolder
    exact ⟨fewer, inner, hfound, fun more => (follow_climb hsearch).trans (hgo more)⟩
  | folder he _ ih =>
    obtain ⟨fewer, inner, hfound, hgo⟩ := ih hfolder
    exact ⟨fewer, inner, hfound, fun more => (follow_folder he).trans (hgo more)⟩
  | link he _ hne _ ih =>
    obtain ⟨fewer, inner, hfound, hgo⟩ := ih hfolder
    refine ⟨fewer, inner, hfound, fun more => ?_⟩
    rw [List.cons_append, follow_link he (.inl rfl) hne, ← List.append_assoc]
    exact hgo more
  | lastLink he _ => simp [DiskEntry.isFolder] at hfolder
  | file he => simp [DiskEntry.isFolder] at hfolder

/-- An empty part in front of others can be put in anywhere. -/
theorem Reaches.insert_idle {front more : List String} (hne : more ≠ [])
    (h : Reaches d followLast links trail (front ++ more) found) :
    Reaches d followLast links trail (front ++ "" :: more) found := by
  generalize hparts : front ++ more = parts at h
  induction h generalizing front with
  | here => simp [hne] at hparts
  | idle hidle hrest ih =>
    rcases List.append_eq_cons_iff.mp hparts with ⟨rfl, rfl⟩ | ⟨front, rfl, rfl⟩
    · exact .idle (.inl rfl) (.idle hidle hrest)
    · exact .idle hidle (ih rfl)
  | climb hsearch hrest ih =>
    rcases List.append_eq_cons_iff.mp hparts with ⟨rfl, rfl⟩ | ⟨front, rfl, rfl⟩
    · exact .idle (.inl rfl) (.climb hsearch hrest)
    · exact .climb hsearch (ih rfl)
  | folder he hrest ih =>
    rcases List.append_eq_cons_iff.mp hparts with ⟨rfl, rfl⟩ | ⟨front, rfl, rfl⟩
    · exact .idle (.inl rfl) (.folder he hrest)
    · exact .folder he (ih rfl)
  | link he hgo hlink hrest ih =>
    rcases List.append_eq_cons_iff.mp hparts with ⟨rfl, rfl⟩ | ⟨front, rfl, rfl⟩
    · exact .idle (.inl rfl) (.link he hgo hlink hrest)
    · have htail := ih (List.append_assoc ..)
      rw [List.append_assoc] at htail
      exact .link he (.inr (by simp)) hlink htail
  | lastLink he hstay =>
    rcases List.append_eq_cons_iff.mp hparts with ⟨rfl, rfl⟩ | ⟨front, _, hnil⟩
    · exact .idle (.inl rfl) (.lastLink he hstay)
    · simp [hne] at hnil
  | file he =>
    rcases List.append_eq_cons_iff.mp hparts with ⟨rfl, rfl⟩ | ⟨front, _, hnil⟩
    · exact .idle (.inl rfl) (.file he)
    · simp [hne] at hnil

theorem Trail.names_cons {inner : Level} (hne : trail ≠ []) :
    Trail.names (inner :: trail) = trail.names ++ [inner.name] := by
  have hlen : 1 ≤ trail.reverse.length := by
    have hpos := List.length_pos_iff.mpr hne
    rw [List.length_reverse]
    omega
  rw [names, names, List.reverse_cons, List.drop_append_of_le_length hlen, List.map_append]
  rfl

theorem Trail.Holds.eq_of_mem {level : Level} {outer : Trail} {name : String} {e inner : DiskEntry}
    (h : Trail.Holds (level :: outer) name e) (legal : DiskEntry.LegalIn level.entries)
    (hmem : (name, inner) ∈ level.entries) : e = inner := by
  obtain ⟨_, _, heq, _, hlookup⟩ := h.lookup
  cases heq
  exact Option.some.inj (hlookup.symm.trans (DiskEntry.lookup_of_legalIn legal hmem))

/-- The names by which a walk shows a file lead to that file and nowhere else. -/
theorem names_of_leads {skipped : String → Bool} {e : DiskEntry} {names : List String}
    (hleads : e.Leads skipped names) (legal : e.Legal) {level : Level} {outer : Trail}
    (he : e = .folder level.readable level.entries)
    (h : Reaches d true links (level :: outer) names found) :
    found.names = Trail.names (level :: outer) ++ names ∧ ¬found.entry.isFolder := by
  induction hleads generalizing level outer with
  | file => simp at he
  | @folder entries name inner more hmem _ hmore ih =>
    obtain ⟨_, rfl⟩ := DiskEntry.folder.inj he
    obtain ⟨hname, hlegal⟩ := DiskEntry.legal_of_mem legal hmem
    cases h with
    | idle hidle _ => exact absurd hname.1 (Path.not_ordinary_of_idle (hidle.imp_right And.left))
    | climb _ _ => exact absurd hname.1 (by decide)
    | folder hholds hrest =>
      cases hholds.eq_of_mem legal hmem
      obtain ⟨hnames, hfile⟩ := ih hlegal rfl hrest
      rw [hnames, Trail.names_cons (List.cons_ne_nil _ _), List.append_assoc]
      exact ⟨rfl, hfile⟩
    | link hholds _ _ _ =>
      cases hholds.eq_of_mem legal hmem
      cases hmore
    | lastLink _ hstay => exact absurd rfl hstay
    | file hholds => exact ⟨rfl, by simp [DiskEntry.isFolder]⟩

/-- The place counted from the root. -/
def fullPlace (d : Disk) (place : String) : String :=
  if place.startsWith "/" then place else Place.join d.workFolder place

theorem look_eq_ok_iff {place : String} :
    d.look followLast place = .ok found ↔
      ('\x00' ∉ place.toList ∧ place ≠ "" ∧ place.utf8ByteSize ≤ maxPlace) ∧
        Reaches d followLast maxLinks d.rootTrail (Place.parts (d.fullPlace place)) found := by
  rw [← follow_eq_ok_iff]
  unfold look fullPlace
  split
  next hnul => simp [hnul]
  next hnul =>
    split
    next hempty => simp_all
    next hempty =>
      split
      next hlong =>
        refine iff_of_false (by simp) fun hall => ?_
        have hsize := hall.1.2.2
        omega
      next hshort =>
        have hsize : place.utf8ByteSize ≤ maxPlace := by omega
        have hne : place ≠ "" := by simpa using hempty
        simp [hnul, hne, hsize]

theorem look_of_reaches {place : String} (habs : place.startsWith "/")
    (hnul : '\x00' ∉ place.toList) (hshort : place.utf8ByteSize ≤ maxPlace)
    (hparts : Place.parts place = parts)
    (h : Reaches d followLast maxLinks d.rootTrail parts found) :
    d.look followLast place = .ok found := by
  have hne : place ≠ "" := by
    rintro rfl
    simp at habs
  rw [look_eq_ok_iff, fullPlace, if_pos habs, hparts]
  exact ⟨⟨hnul, hne, hshort⟩, h⟩

theorem look_slash (hroot : d.root.isFolder) (followLast : Bool) :
    d.look followLast "/" = .ok ⟨[], d.root⟩ := by
  have hfound : d.rootTrail.found = ⟨[], d.root⟩ := by
    cases hd : d.root with
    | folder readable entries => simp [rootTrail, hd, Trail.found, Trail.names]
    | file readable content => simp [hd, DiskEntry.isFolder] at hroot
    | link target => simp [hd, DiskEntry.isFolder] at hroot
    | lost cause => simp [hd, DiskEntry.isFolder] at hroot
  rw [← hfound]
  exact look_of_reaches (by simp) (by decide) (by decide) rfl
    (.idle (.inl rfl) (.idle (.inl rfl) .here))

theorem parts_fullPlace_join (d : Disk) {base name : String} (hne : base ≠ "")
    (hrel : ¬name.startsWith "/") :
    ∃ front idle, (idle = [] ∨ idle = [""]) ∧ Place.parts (d.fullPlace base) = front ++ idle ∧
      Place.parts (d.fullPlace (Place.join base name)) = front ++ Place.parts name := by
  unfold fullPlace
  rw [Place.startsWith_slash_join hne hrel]
  split
  next => exact Place.parts_join hne hrel
  next hbase =>
    have houter : Place.join d.workFolder base ≠ "" := by
      rw [Place.join_relative _ hbase]
      simp [hne]
    rw [Place.join_join _ hne hbase hrel]
    exact Place.parts_join houter hrel

/-- Looking up a joined place goes on from the folder that it is joined to. -/
theorem look_join {base name : String} {b : Found} (hbase : d.look true base = .ok b)
    (hfolder : b.entry.isFolder) (hrel : ¬name.startsWith "/")
    (h : d.look true (Place.join base name) = .ok found) :
    ∃ fewer inner, Trail.found inner = b ∧ Reaches d true fewer inner (Place.parts name) found := by
  obtain ⟨⟨_, hne, _⟩, hway⟩ := look_eq_ok_iff.mp hbase
  obtain ⟨_, hjoined⟩ := look_eq_ok_iff.mp h
  obtain ⟨front, idle, hidle, hparts, hparts'⟩ := parts_fullPlace_join d hne hrel
  rw [hparts] at hway
  rw [hparts'] at hjoined
  obtain ⟨fewer, inner, hfound, hgo⟩ := follow_append hway hfolder
  refine ⟨fewer, inner, hfound, ?_⟩
  rw [← follow_eq_ok_iff, ← hgo, follow_eq_ok_iff, List.append_assoc]
  rcases hidle with rfl | rfl
  · exact hjoined
  · exact hjoined.insert_idle (Place.parts_ne_nil name)

theorem stands_of_look {place : String} (h : d.look followLast place = .ok found) :
    Stands d found :=
  (look_eq_ok_iff.mp h).2.stands .root

/-- What stands at a place of a legal disk is legal. -/
theorem legal_of_look {place : String} (legal : d.root.Legal)
    (h : d.look followLast place = .ok found) : found.entry.Legal :=
  (stands_of_look h).hereditary (fun hall hmem => (DiskEntry.legal_of_mem hall hmem).2) legal
    True.intro

theorem namesAll_of_look {P : String → Prop} {place : String} (all : d.root.NamesAll P)
    (h : d.look followLast place = .ok found) : found.entry.NamesAll P :=
  (stands_of_look h).hereditary (fun hall hmem => (DiskEntry.namesAll_of_mem hall hmem).2) all
    True.intro

/-- A walk starts from what stands at the place, through links. -/
theorem leads_of_mem_sights {skipped : String → Bool} {place : String} {names : List String}
    (h : .file names ∈ d.sights skipped place) :
    ∃ b, d.look true place = .ok b ∧ b.entry.Leads skipped names := by
  have hleads : ∀ e : DiskEntry, .file names ∈ e.sights skipped [] → e.Leads skipped names := by
    intro e he
    obtain ⟨more, rfl, hmore⟩ := (DiskEntry.mem_sights_iff [] names e).mp he
    exact hmore
  unfold sights at h
  split at h
  next => simp at h
  next =>
    split at h
    next => simp at h
    next hlook => exact ⟨_, hlook, hleads _ h⟩
    next => simp at h
  next b hno hlook =>
    refine ⟨b, ?_, hleads _ h⟩
    obtain ⟨hplace, hway⟩ := look_eq_ok_iff.mp hlook
    exact look_eq_ok_iff.mpr ⟨hplace, hway.of_not_link fun target htarget =>
      hno b.names target (by rw [← htarget])⟩

/-- A walk from a place with a folder shows what there is to see in the folder. -/
theorem sights_eq_of_look {place : String} {b : Found} (h : d.look true place = .ok b)
    (hfolder : b.entry.isFolder) (skipped : String → Bool) :
    d.sights skipped place = b.entry.sights skipped [] := by
  obtain ⟨hplace, hway⟩ := look_eq_ok_iff.mp h
  obtain ⟨last, hlast, hfound⟩ := hway.exists_unfollowed
  have hlook : d.look false place = .ok last := look_eq_ok_iff.mpr ⟨hplace, hlast⟩
  obtain ⟨names, e⟩ := b
  cases e with
  | file readable content => simp [DiskEntry.isFolder] at hfolder
  | link target => simp [DiskEntry.isFolder] at hfolder
  | lost cause => simp [DiskEntry.isFolder] at hfolder
  | folder readable entries =>
    obtain ⟨lastNames, lastEntry⟩ := last
    rcases hfound with heq | ⟨target, rfl⟩
    · cases heq
      simp only [sights, hlook]
    · simp only [sights, hlook, h]

/-- A walk of a legal disk meets everything once, in the order of the names. -/
theorem sights_sorted (legal : d.root.Legal) (skipped : String → Bool) (place : String) :
    (d.sights skipped place).Pairwise fun a b => a.names < b.names := by
  unfold sights
  split
  next => simp
  next =>
    split
    next => simp
    next hlook => exact DiskEntry.sights_sorted _ (legal_of_look legal hlook)
    next => simp
  next hlook => exact DiskEntry.sights_sorted _ (legal_of_look legal hlook)

end ImportSurvey.Disk
