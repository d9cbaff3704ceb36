import ImportSurvey.Proofs.DiskLook
import ImportSurvey.Proofs.SurveyContents
import ImportSurvey.Proofs.WalkPaths

namespace ImportSurvey

theorem Sight.pairwise_fileNames {sights : List Sight}
    (h : sights.Pairwise fun a b => a.names < b.names) :
    (sights.filterMap Sight.fileNames?).Pairwise (· < ·) := by
  rw [List.pairwise_filterMap]
  refine h.imp ?_
  intro a b hlt names hn others ho
  cases a with
  | blocked _ _ => simp [Sight.fileNames?] at hn
  | lost _ _ => simp [Sight.fileNames?] at hn
  | file _ =>
    cases b with
    | blocked _ _ => simp [Sight.fileNames?] at ho
    | lost _ _ => simp [Sight.fileNames?] at ho
    | file _ =>
      cases Option.some.inj hn
      cases Option.some.inj ho
      exact hlt

namespace Plan

variable {d : Disk} {p : Plan} {names : List String}

theorem leads_of_mem_counted (h : names ∈ p.counted d) :
    ∃ b, d.look true p.base = .ok b ∧ b.entry.Leads p.skipDirs.contains names :=
  Disk.leads_of_mem_sights (mem_counted_iff.mp h).2.1

theorem legalName_of_mem_counted (legal : d.root.Legal) (h : names ∈ p.counted d) :
    ∀ name ∈ names, DiskEntry.LegalName name := by
  obtain ⟨b, hlook, hleads⟩ := leads_of_mem_counted h
  exact hleads.legalName (Disk.legal_of_look legal hlook)

/-- The way to a counted file consists of names on the disk. -/
theorem forall_names_of_mem_counted {P : String → Prop} (all : d.root.NamesAll P)
    (h : names ∈ p.counted d) : ∀ name ∈ names, P name := by
  obtain ⟨b, hlook, hleads⟩ := leads_of_mem_counted h
  exact hleads.forall_names (Disk.namesAll_of_look all hlook)

/-- Without backslashes the path of a counted file tells the way to it. -/
theorem segments_of_mem_counted (legal : d.root.Legal) (h : names ∈ p.counted d)
    (free : ∀ name ∈ names, '\\' ∉ name.toList) : Path.segments (walkPath names) = names :=
  segments_walkPath_of_free (ne_nil_of_mem_counted h) (legalName_of_mem_counted legal h) free

theorem counted_eq_of_path (legal : d.root.Legal) {others : List String}
    (hn : names ∈ p.counted d) (ho : others ∈ p.counted d)
    (free : ∀ name ∈ names, '\\' ∉ name.toList) (free' : ∀ name ∈ others, '\\' ∉ name.toList)
    (heq : walkPath names = walkPath others) : names = others := by
  rw [← segments_of_mem_counted legal hn free, ← segments_of_mem_counted legal ho free', heq]

/-- The counted files come in the order of their names. -/
theorem counted_sorted (legal : d.root.Legal) (p : Plan) : (p.counted d).Pairwise (· < ·) := by
  unfold counted
  split
  next => simp
  next => exact (Sight.pairwise_fileNames (d.sights_sorted legal _ p.base)).filter _

theorem counted_nodup (legal : d.root.Legal) (p : Plan) : (p.counted d).Nodup := by
  refine (counted_sorted legal p).imp ?_
  rintro names _ hlt rfl
  exact List.lt_irrefl names hlt

end Plan

end ImportSurvey
