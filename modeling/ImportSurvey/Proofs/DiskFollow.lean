import ImportSurvey.Disk.Basic
import ImportSurvey.Proofs.DiskNames

namespace ImportSurvey.Disk

/-- The innermost folder can be read, and an entry stands under the name there. -/
structure Trail.Holds (trail : Trail) (name : String) (e : DiskEntry) : Prop where
  ordinary : Path.Ordinary name
  short : name.utf8ByteSize ≤ maxName
  lookup : ∃ level outer, trail = level :: outer ∧ level.readable ∧
    level.entries.lookup name = some e

/-- From the folder of a trail the parts lead to what was found, over at most `links` links. -/
inductive Reaches (d : Disk) (followLast : Bool) :
    Nat → Trail → List String → Found → Prop
  | here {links : Nat} {trail : Trail} : Reaches d followLast links trail [] trail.found
  | idle {links : Nat} {trail : Trail} {part : String} {rest : List String} {found : Found} :
      part = "" ∨ part = "." ∧ trail.searchable → Reaches d followLast links trail rest found →
      Reaches d followLast links trail (part :: rest) found
  | climb {links : Nat} {trail : Trail} {rest : List String} {found : Found} :
      trail.searchable → Reaches d followLast links trail.outer rest found →
      Reaches d followLast links trail (".." :: rest) found
  | folder {links : Nat} {trail : Trail} {name : String} {rest : List String} {found : Found}
      {readable : Bool} {entries : List (String × DiskEntry)} :
      trail.Holds name (.folder readable entries) →
      Reaches d followLast links (⟨name, readable, entries⟩ :: trail) rest found →
      Reaches d followLast links trail (name :: rest) found
  | link {links : Nat} {trail : Trail} {name : String} {rest : List String} {found : Found}
      {target : String} :
      trail.Holds name (.link target) → followLast ∨ rest ≠ [] → target ≠ "" →
      Reaches d followLast links (d.start trail target) (Place.parts target ++ rest) found →
      Reaches d followLast (links + 1) trail (name :: rest) found
  | lastLink {links : Nat} {trail : Trail} {name target : String} :
      trail.Holds name (.link target) → ¬followLast →
      Reaches d followLast links trail [name] ⟨trail.names ++ [name], .link target⟩
  | file {links : Nat} {trail : Trail} {name : String} {readable : Bool} {content : List UInt8} :
      trail.Holds name (.file readable content) →
      Reaches d followLast links trail [name] ⟨trail.names ++ [name], .file readable content⟩

variable {d : Disk} {followLast : Bool} {links : Nat} {trail : Trail} {name : String}
  {rest : List String} {found : Found}

theorem Trail.Holds.searchable {e : DiskEntry} (h : trail.Holds name e) : trail.searchable := by
  obtain ⟨level, outer, rfl, hread, _⟩ := h.lookup
  exact hread

theorem Trail.Holds.ne_nil {e : DiskEntry} (h : trail.Holds name e) : trail ≠ [] := by
  obtain ⟨level, outer, rfl, _, _⟩ := h.lookup
  exact List.cons_ne_nil _ _

theorem follow_eq_followParts (d : Disk) (followLast : Bool) (links : Nat) :
    ∃ jump, d.follow followLast links = followParts jump followLast := by
  cases links with
  | zero => exact ⟨_, rfl⟩
  | succ links => exact ⟨_, rfl⟩

theorem follow_nil : d.follow followLast links trail [] = .ok trail.found := by
  obtain ⟨jump, hjump⟩ := follow_eq_followParts d followLast links
  rw [hjump, followParts]

theorem follow_idle (h : name = "" ∨ name = "." ∧ trail.searchable) :
    d.follow followLast links trail (name :: rest) = d.follow followLast links trail rest := by
  obtain ⟨jump, hjump⟩ := follow_eq_followParts d followLast links
  rw [hjump, followParts.eq_def]
  rcases h with rfl | ⟨rfl, hsearch⟩
  · exact if_pos rfl
  · simp [hsearch]

theorem follow_climb (h : trail.searchable) :
    d.follow followLast links trail (".." :: rest) =
      d.follow followLast links trail.outer rest := by
  obtain ⟨jump, hjump⟩ := follow_eq_followParts d followLast links
  rw [hjump, followParts.eq_def]
  simp [h]

/-- Nothing is looked up in a closed folder, not even where its dots lead. -/
theorem searchable_of_follow (hne : name ≠ "")
    (h : d.follow followLast links trail (name :: rest) = .ok found) : trail.searchable := by
  obtain ⟨jump, hjump⟩ := follow_eq_followParts d followLast links
  rw [hjump, followParts.eq_def] at h
  cases hsearch : trail.searchable with
  | true => rfl
  | false => simp [hne, hsearch] at h

theorem followParts_of_holds (jump : Trail → String → List String → Except DiskFault Found)
    (followLast : Bool) (rest : List String) {e : DiskEntry} : trail.Holds name e →
    followParts jump followLast trail (name :: rest) =
      match e with
      | .folder readable entries =>
        followParts jump followLast (⟨name, readable, entries⟩ :: trail) rest
      | .link target =>
        if followLast || !rest.isEmpty then jump trail target rest
        else .ok ⟨trail.names ++ [name], .link target⟩
      | .file readable content =>
        if rest.isEmpty then .ok ⟨trail.names ++ [name], .file readable content⟩
        else .error .notFolder
      | .lost cause => .error cause := by
  intro h
  have hsearch : ¬(!trail.searchable) = true := by simpa using h.searchable
  obtain ⟨⟨h1, h2, h3⟩, hshort, level, outer, rfl, _, hlookup⟩ := h
  rw [followParts, if_neg h1, if_neg hsearch, if_neg h2, if_neg h3, if_neg (by omega)]
  simp only [hlookup]
  cases e with
  | folder readable entries => rfl
  | link target => rfl
  | file readable content => rfl
  | lost cause => rfl

theorem follow_folder {readable : Bool} {entries : List (String × DiskEntry)}
    (h : trail.Holds name (.folder readable entries)) :
    d.follow followLast links trail (name :: rest) =
      d.follow followLast links (⟨name, readable, entries⟩ :: trail) rest := by
  obtain ⟨jump, hjump⟩ := follow_eq_followParts d followLast links
  rw [hjump, followParts_of_holds _ _ _ h]

theorem follow_link {target : String} (h : trail.Holds name (.link target))
    (hgo : followLast ∨ rest ≠ []) (hne : target ≠ "") :
    d.follow followLast (links + 1) trail (name :: rest) =
      d.follow followLast links (d.start trail target) (Place.parts target ++ rest) := by
  have hgo' : (followLast || !rest.isEmpty) = true := by simpa using hgo
  have hne' : ¬target.isEmpty = true := by simpa using hne
  rw [follow, followParts_of_holds _ _ _ h]
  exact (if_pos hgo').trans (if_neg hne')

theorem follow_lastLink {target : String} (h : trail.Holds name (.link target))
    (hstay : ¬followLast) :
    d.follow followLast links trail [name] = .ok ⟨trail.names ++ [name], .link target⟩ := by
  obtain ⟨jump, hjump⟩ := follow_eq_followParts d followLast links
  rw [hjump, followParts_of_holds _ _ _ h]
  simp [hstay]

theorem follow_file {readable : Bool} {content : List UInt8}
    (h : trail.Holds name (.file readable content)) :
    d.follow followLast links trail [name] =
      .ok ⟨trail.names ++ [name], .file readable content⟩ := by
  obtain ⟨jump, hjump⟩ := follow_eq_followParts d followLast links
  rw [hjump, followParts_of_holds _ _ _ h]
  rfl

/-- There is no way on but through an entry of the innermost folder. -/
theorem holds_of_follow (hord : Path.Ordinary name)
    (h : d.follow followLast links trail (name :: rest) = .ok found) :
    ∃ e, trail.Holds name e := by
  have hsearch := searchable_of_follow hord.1 h
  obtain ⟨jump, hjump⟩ := follow_eq_followParts d followLast links
  rw [hjump, followParts.eq_def] at h
  simp only [hord.1, hord.2.1, hord.2.2, hsearch, Bool.not_true, Bool.false_eq_true, if_false] at h
  split at h
  next => simp at h
  next hshort =>
    cases trail with
    | nil => simp at h
    | cons level outer =>
      cases hlookup : level.entries.lookup name with
      | none => simp [hlookup] at h
      | some e => exact ⟨e, hord, by omega, level, outer, rfl, hsearch, hlookup⟩

theorem rest_eq_nil_of_file {readable : Bool} {content : List UInt8}
    (he : trail.Holds name (.file readable content))
    (h : d.follow followLast links trail (name :: rest) = .ok found) : rest = [] := by
  obtain ⟨jump, hjump⟩ := follow_eq_followParts d followLast links
  rw [hjump, followParts_of_holds _ _ _ he] at h
  cases rest with
  | nil => rfl
  | cons next more => simp at h

/-- What is lost is not found. -/
theorem follow_lost {cause : DiskFault} (he : trail.Holds name (.lost cause)) :
    d.follow followLast links trail (name :: rest) = .error cause := by
  obtain ⟨jump, hjump⟩ := follow_eq_followParts d followLast links
  rw [hjump, followParts_of_holds _ _ _ he]

/-- A link is only followed if it leads somewhere and not too many were met before. -/
theorem exists_links_of_link {target : String} (he : trail.Holds name (.link target))
    (hgo : followLast ∨ rest ≠ [])
    (h : d.follow followLast links trail (name :: rest) = .ok found) :
    target ≠ "" ∧ ∃ fewer, links = fewer + 1 := by
  have hgo' : (followLast || !rest.isEmpty) = true := by simpa using hgo
  cases links with
  | zero =>
    rw [follow, followParts_of_holds _ _ _ he] at h
    simp [hgo'] at h
  | succ fewer =>
    refine ⟨?_, fewer, rfl⟩
    rintro rfl
    rw [follow, followParts_of_holds _ _ _ he] at h
    simp [hgo'] at h

theorem reaches_of_follow : (links : Nat) → (trail : Trail) → (parts : List String) →
    d.follow followLast links trail parts = .ok found →
    Reaches d followLast links trail parts found
  | links, trail, [] => by
    intro h
    rw [follow_nil] at h
    cases Except.ok.inj h
    exact .here
  | links, trail, name :: rest => by
    intro h
    rcases Path.segment_cases name with hidle | rfl | hord
    · have hidle : name = "" ∨ name = "." ∧ trail.searchable := by
        by_cases hempty : name = ""
        · exact .inl hempty
        · exact .inr ⟨hidle.resolve_left hempty, searchable_of_follow hempty h⟩
      rw [follow_idle hidle] at h
      exact .idle hidle (reaches_of_follow links trail rest h)
    · have hsearch := searchable_of_follow (by decide) h
      rw [follow_climb hsearch] at h
      exact .climb hsearch (reaches_of_follow links trail.outer rest h)
    · obtain ⟨e, he⟩ := holds_of_follow hord h
      cases e with
      | folder readable entries =>
        rw [follow_folder he] at h
        exact .folder he (reaches_of_follow links _ rest h)
      | file readable content =>
        cases rest_eq_nil_of_file he h
        rw [follow_file he] at h
        cases Except.ok.inj h
        exact .file he
      | link target =>
        by_cases hgo : followLast ∨ rest ≠ []
        · obtain ⟨hne, fewer, rfl⟩ := exists_links_of_link he hgo h
          rw [follow_link he hgo hne] at h
          exact .link he hgo hne (reaches_of_follow fewer _ _ h)
        · simp only [not_or, ne_eq, Classical.not_not] at hgo
          obtain ⟨hstay, rfl⟩ := hgo
          rw [follow_lastLink he hstay] at h
          cases Except.ok.inj h
          exact .lastLink he hstay
      | lost cause =>
        rw [follow_lost he] at h
        cases h
termination_by links _ parts => (links, parts.length)

theorem follow_of_reaches {parts : List String}
    (h : Reaches d followLast links trail parts found) :
    d.follow followLast links trail parts = .ok found := by
  induction h with
  | here => exact follow_nil
  | idle hidle _ ih => rw [follow_idle hidle, ih]
  | climb hsearch _ ih => rw [follow_climb hsearch, ih]
  | folder he _ ih => rw [follow_folder he, ih]
  | link he hgo hne _ ih => rw [follow_link he hgo hne, ih]
  | lastLink he hstay => exact follow_lastLink he hstay
  | file he => exact follow_file he

theorem follow_eq_ok_iff {parts : List String} :
    d.follow followLast links trail parts = .ok found ↔
      Reaches d followLast links trail parts found :=
  ⟨reaches_of_follow links trail parts, follow_of_reaches⟩

end ImportSurvey.Disk
