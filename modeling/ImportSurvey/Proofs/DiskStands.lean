import ImportSurvey.Proofs.DiskFollow

namespace ImportSurvey.Disk

variable {d : Disk} {followLast : Bool} {links : Nat} {trail : Trail} {parts : List String}
  {found : Found}

/-- The trail goes down from the root, each folder standing in the readable folder before. -/
inductive Trail.Rooted (d : Disk) : Trail → Prop
  | root : Rooted d d.rootTrail
  | inner {trail : Trail} {name : String} {readable : Bool} {entries : List (String × DiskEntry)} :
      Rooted d trail → trail.Holds name (.folder readable entries) →
      Rooted d (⟨name, readable, entries⟩ :: trail)

/-- What was found is the folder of such a trail, or another entry in it. -/
inductive Stands (d : Disk) : Found → Prop
  | folder {trail : Trail} : trail.Rooted d → Stands d trail.found
  | entry {trail : Trail} {name : String} {e : DiskEntry} :
      trail.Rooted d → trail.Holds name e → ¬e.isFolder → e.fault? = none →
      Stands d ⟨trail.names ++ [name], e⟩

theorem Trail.outer_cons {level : Level} (hne : trail ≠ []) :
    Trail.outer (level :: trail) = trail := by
  cases trail with
  | nil => exact absurd rfl hne
  | cons next rest => rfl

theorem rootTrail_cases (d : Disk) : d.rootTrail = [] ∨ ∃ level, d.rootTrail = [level] := by
  unfold rootTrail
  split
  next => exact .inr ⟨_, rfl⟩
  next => exact .inl rfl

theorem Trail.Rooted.outer (h : trail.Rooted d) : trail.outer.Rooted d := by
  cases h with
  | root =>
    have hsame : d.rootTrail.outer = d.rootTrail := by
      rcases d.rootTrail_cases with h | ⟨level, h⟩ <;> rw [h] <;> rfl
    rw [hsame]
    exact .root
  | inner houter hholds =>
    rw [Trail.outer_cons hholds.ne_nil]
    exact houter

theorem Trail.Rooted.start (h : trail.Rooted d) (place : String) :
    (d.start trail place).Rooted d := by
  unfold Disk.start
  split
  next => exact .root
  next => exact h

theorem Reaches.stands (h : Reaches d followLast links trail parts found)
    (htrail : trail.Rooted d) : Stands d found := by
  induction h with
  | here => exact .folder htrail
  | idle _ _ ih => exact ih htrail
  | climb _ _ ih => exact ih htrail.outer
  | folder hholds _ ih => exact ih (htrail.inner hholds)
  | link _ _ _ _ ih => exact ih (htrail.start _)
  | lastLink hholds _ => exact .entry htrail hholds (by simp [DiskEntry.isFolder]) rfl
  | file hholds => exact .entry htrail hholds (by simp [DiskEntry.isFolder]) rfl

section Hereditary

variable {P : DiskEntry → Prop}
  (inner : ∀ {readable entries name e}, P (.folder readable entries) → (name, e) ∈ entries → P e)

include inner

theorem Trail.Holds.hereditary {name : String} {e : DiskEntry} (h : trail.Holds name e)
    (hlevels : ∀ level ∈ trail, P (.folder level.readable level.entries)) : P e := by
  obtain ⟨level, outer, rfl, _, hlookup⟩ := h.lookup
  exact inner (hlevels level List.mem_cons_self) (DiskEntry.mem_of_lookup hlookup)

theorem Trail.Rooted.hereditary (root : P d.root) (h : trail.Rooted d) :
    ∀ level ∈ trail, P (.folder level.readable level.entries) := by
  induction h with
  | root =>
    unfold rootTrail
    split
    next hroot =>
      intro level hl
      cases List.mem_singleton.mp hl
      rwa [← hroot]
    next => simp
  | inner _ hholds ih =>
    intro level hl
    rcases List.mem_cons.mp hl with rfl | hl
    · exact hholds.hereditary inner ih
    · exact ih level hl

/-- What holds of the root and passes on to the entries of a folder holds wherever one looks. -/
theorem Stands.hereditary (root : P d.root) (empty : P (.folder true [])) (h : Stands d found) :
    P found.entry := by
  cases h with
  | @folder trail htrail =>
    cases trail with
    | nil => exact empty
    | cons level outer => exact htrail.hereditary inner root level List.mem_cons_self
  | entry htrail hholds _ _ => exact hholds.hereditary inner (htrail.hereditary inner root)

end Hereditary

end ImportSurvey.Disk
