import ImportSurvey.Proofs.DiskLook
import ImportSurvey.Proofs.Outcomes
import ImportSurvey.Proofs.PlaceChain

namespace ImportSurvey

/-- What stands in an entry behind names, through readable folders, unless it is lost. -/
def DiskEntry.below? : DiskEntry → List String → Option DiskEntry
  | .lost _, _ => none
  | e, [] => some e
  | .folder true entries, name :: rest => (entries.lookup name).bind (·.below? rest)
  | _, _ :: _ => none

namespace Disk

open DiskEntry (LegalName)

variable {d : Disk} {links : Nat} {trail : Trail} {parts more : List String} {found : Found}

/-- A text that the system takes for a place. -/
def Fits (place : String) : Prop := '\x00' ∉ place.toList ∧ place.utf8ByteSize ≤ maxPlace

instance (place : String) : Decidable (Fits place) := inferInstanceAs (Decidable (_ ∧ _))

theorem names_rootTrail (d : Disk) : d.rootTrail.names = [] := by
  rcases d.rootTrail_cases with h | ⟨level, h⟩ <;> rw [h] <;> rfl

theorem Trail.names_found (trail : Trail) : trail.found.names = trail.names := by
  cases trail <;> rfl

theorem Trail.Rooted.legalName_of_holds {name : String} {e : DiskEntry} (legal : d.root.Legal)
    (h : trail.Rooted d) (hholds : trail.Holds name e) : LegalName name := by
  have hlevels := h.hereditary (P := DiskEntry.Legal)
    (fun hall hmem => (DiskEntry.legal_of_mem hall hmem).2) legal
  obtain ⟨level, outer, rfl, _, hlookup⟩ := hholds.lookup
  exact (DiskEntry.legal_of_mem (hlevels level List.mem_cons_self)
    (DiskEntry.mem_of_lookup hlookup)).1

theorem Trail.Rooted.legalName (legal : d.root.Legal) (h : trail.Rooted d) :
    ∀ name ∈ trail.names, LegalName name := by
  induction h with
  | root => simp [names_rootTrail]
  | inner htrail hholds ih =>
    rw [Trail.names_cons hholds.ne_nil]
    intro other ho
    rcases List.mem_append.mp ho with ho | ho
    · exact ih other ho
    · cases List.mem_singleton.mp ho
      exact htrail.legalName_of_holds legal hholds

theorem Stands.legalName (legal : d.root.Legal) (h : Stands d found) :
    ∀ name ∈ found.names, LegalName name := by
  cases h with
  | folder htrail =>
    rw [Trail.names_found]
    exact htrail.legalName legal
  | entry htrail hholds _ _ =>
    intro other ho
    rcases List.mem_append.mp ho with ho | ho
    · exact htrail.legalName legal other ho
    · cases List.mem_singleton.mp ho
      exact htrail.legalName_of_holds legal hholds

theorem realPlace_eq_ok_iff {place real : String} :
    d.realPlace place = .ok real ↔
      ∃ found, d.look true place = .ok found ∧ Fits real ∧ Place.ofNames found.names = real := by
  simp only [realPlace, bind_eq_ok_iff]
  refine exists_congr fun found => and_congr_right fun _ => ?_
  constructor
  · intro h
    split at h
    next => cases h
    next hnul =>
      split at h
      next => cases h
      next hlong =>
        cases Except.ok.inj h
        exact ⟨⟨hnul, Nat.le_of_not_lt hlong⟩, rfl⟩
  · rintro ⟨⟨hnul, hfits⟩, rfl⟩
    rw [if_neg hnul, if_neg (Nat.not_lt.mpr hfits)]

theorem look_ofNames_of_reaches {names : List String} (legal : ∀ name ∈ names, LegalName name)
    (fits : Fits (Place.ofNames names)) (h : Reaches d true maxLinks d.rootTrail names found) :
    d.look true (Place.ofNames names) = .ok found := by
  have hparts := Place.parts_ofNames legal
  have habs : (Place.ofNames names).startsWith "/" := by
    rw [Place.ofNames, Place.startsWith_slash_append (by simp)]
    simp
  refine look_of_reaches habs fits.1 fits.2 hparts (.idle (.inl rfl) ?_)
  split
  next hnone =>
    rw [hnone] at h
    exact .idle (.inl rfl) h
  next => exact h

theorem reaches_of_below? {level : Level} {outer : Trail} {names : List String} {e : DiskEntry}
    (legal : ∀ name ∈ names, LegalName name ∧ name.utf8ByteSize ≤ maxName)
    (h : (DiskEntry.folder level.readable level.entries).below? names = some e)
    (hno : ∀ target, e ≠ .link target) :
    Reaches d true links (level :: outer) names ⟨Trail.names (level :: outer) ++ names, e⟩ := by
  induction names generalizing level outer with
  | nil =>
    cases Option.some.inj h
    rw [List.append_nil]
    exact .here
  | cons name rest ih =>
    obtain ⟨hname, hsize⟩ := legal name List.mem_cons_self
    have hlegal : ∀ other ∈ rest, LegalName other ∧ other.utf8ByteSize ≤ maxName :=
      fun other ho => legal other (List.mem_cons_of_mem _ ho)
    cases hread : level.readable with
    | false => simp [hread, DiskEntry.below?] at h
    | true =>
      rw [hread, DiskEntry.below?] at h
      obtain ⟨inner, hlookup, hrest⟩ := Option.bind_eq_some_iff.mp h
      have hholds : Trail.Holds (level :: outer) name inner :=
        ⟨hname.1, hsize, level, outer, rfl, hread, hlookup⟩
      cases inner with
      | folder readable entries =>
        have hway : Reaches d true links (⟨name, readable, entries⟩ :: level :: outer) rest
            ⟨Trail.names (⟨name, readable, entries⟩ :: level :: outer) ++ rest, e⟩ :=
          ih hlegal hrest
        rw [Trail.names_cons (List.cons_ne_nil _ _), List.append_assoc] at hway
        exact .folder hholds hway
      | link target =>
        cases rest with
        | nil => exact absurd (Option.some.inj hrest).symm (hno target)
        | cons next others => simp [DiskEntry.below?] at hrest
      | file readable content =>
        cases rest with
        | nil =>
          cases Option.some.inj hrest
          exact .file hholds
        | cons next others => simp [DiskEntry.below?] at hrest
      | lost cause => simp [DiskEntry.below?] at hrest

/-- Names that lead to something through readable folders make up its place. -/
theorem look_of_below? {names : List String} {e : DiskEntry} (hroot : d.root.isFolder)
    (legal : ∀ name ∈ names, LegalName name ∧ name.utf8ByteSize ≤ maxName)
    (fits : Fits (Place.ofNames names)) (h : d.root.below? names = some e)
    (hno : ∀ target, e ≠ .link target) :
    d.look true (Place.ofNames names) = .ok ⟨names, e⟩ := by
  have hway : Reaches d true maxLinks d.rootTrail names ⟨names, e⟩ := by
    cases hd : d.root with
    | file readable content => simp [hd, DiskEntry.isFolder] at hroot
    | link target => simp [hd, DiskEntry.isFolder] at hroot
    | lost cause => simp [hd, DiskEntry.isFolder] at hroot
    | folder readable entries =>
      rw [hd] at h
      have hrest : Reaches d true maxLinks [⟨"", readable, entries⟩] names
          ⟨Trail.names [⟨"", readable, entries⟩] ++ names, e⟩ := reaches_of_below? legal h hno
      rw [rootTrail, hd]
      exact hrest
  exact look_ofNames_of_reaches (fun name hn => (legal name hn).1) fits hway

end Disk

end ImportSurvey
