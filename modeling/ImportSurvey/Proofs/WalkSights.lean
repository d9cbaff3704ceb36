import ImportSurvey.Disk.Walk
import ImportSurvey.Proofs.DiskNames

namespace ImportSurvey

/-- The names that lead to what was met. -/
def Sight.names : Sight → List String
  | .file names => names
  | .blocked names _ => names
  | .lost names _ => names

namespace DiskEntry

/-- The names lead from an entry down to a file through readable folders that are not skipped; links
are not followed. -/
inductive Leads (skipped : String → Bool) : DiskEntry → List String → Prop
  | file {readable : Bool} {content : List UInt8} : Leads skipped (.file readable content) []
  | folder {entries : List (String × DiskEntry)} {name : String} {e : DiskEntry}
      {names : List String} :
      (name, e) ∈ entries → ¬(e.isFolder ∧ skipped name) → Leads skipped e names →
      Leads skipped (.folder true entries) (name :: names)

variable {skipped : String → Bool}

/-- In an open folder there is to see what stands in it, and the fault that its listing breaks off
with. -/
theorem mem_sights_folder_iff {front : List String} {entries : List (String × DiskEntry)}
    {sight : Sight} : sight ∈ (DiskEntry.folder true entries).sights skipped front ↔
      (∃ cause, breakOff? entries = some cause ∧ sight = .lost front cause) ∨
        sight ∈ sightsIn skipped front entries := by
  rw [sights, if_pos rfl, List.mem_append, List.mem_map]
  simp only [Option.mem_toList, eq_comm (a := sight)]

mutual

/-- A walk shows the files that names lead to, and no others. -/
theorem mem_sights_iff (front names : List String) : (e : DiskEntry) →
    (.file names ∈ e.sights skipped front ↔ ∃ more, names = front ++ more ∧ Leads skipped e more)
  | .file readable content => by
    constructor
    · intro h
      cases List.mem_singleton.mp h
      exact ⟨[], by simp, .file⟩
    · rintro ⟨more, rfl, ⟨⟩⟩
      simp [sights]
  | .link target => by
    refine iff_of_false (by simp [sights]) ?_
    rintro ⟨more, _, ⟨⟩⟩
  | .folder false entries => by
    refine iff_of_false (by simp [sights]) ?_
    rintro ⟨more, _, ⟨⟩⟩
  | .folder true entries => by
    rw [mem_sights_folder_iff, mem_sightsIn_iff front names entries]
    constructor
    · rintro (⟨cause, _, hlost⟩ | ⟨name, e, more, hmem, hkept, rfl, hleads⟩)
      · cases hlost
      · exact ⟨name :: more, rfl, .folder hmem hkept hleads⟩
    · rintro ⟨_, rfl, hleads⟩
      cases hleads with
      | folder hmem hkept hleads => exact .inr ⟨_, _, _, hmem, hkept, rfl, hleads⟩
  | .lost cause => by
    refine iff_of_false (by simp [sights]) ?_
    rintro ⟨more, _, ⟨⟩⟩

theorem mem_sightsIn_iff (front names : List String) : (entries : List (String × DiskEntry)) →
    (.file names ∈ sightsIn skipped front entries ↔
      ∃ name e more, (name, e) ∈ entries ∧ ¬(e.isFolder ∧ skipped name) ∧
        names = front ++ name :: more ∧ Leads skipped e more)
  | [] => by simp [sightsIn]
  | (name, e) :: rest => by
    have hrest := mem_sightsIn_iff front names rest
    have hfirst := mem_sights_iff (front ++ [name]) names e
    rw [sightsIn, List.mem_append, hrest]
    constructor
    · rintro (h | ⟨other, inner, more, hmem, h⟩)
      · split at h
        next => simp at h
        next hkept =>
          obtain ⟨more, rfl, hleads⟩ := hfirst.mp h
          exact ⟨name, e, more, List.mem_cons_self, by simpa using hkept, by simp, hleads⟩
      · exact ⟨other, inner, more, List.mem_cons_of_mem _ hmem, h⟩
    · rintro ⟨other, inner, more, hmem, hkept, heq, hleads⟩
      rcases List.mem_cons.mp hmem with hhead | htail
      · cases hhead
        left
        rw [if_neg (by simpa using hkept)]
        exact hfirst.mpr ⟨more, by simp [heq], hleads⟩
      · exact .inr ⟨other, inner, more, htail, hkept, heq, hleads⟩

end

mutual

theorem prefix_of_mem_sights {front : List String} {sight : Sight} : (e : DiskEntry) →
    sight ∈ e.sights skipped front → ∃ more, sight.names = front ++ more
  | .file readable content => by
    intro h
    cases List.mem_singleton.mp h
    exact ⟨[], by simp [Sight.names]⟩
  | .link target => by simp [sights]
  | .folder false entries => by
    intro h
    cases List.mem_singleton.mp h
    exact ⟨[], by simp [Sight.names]⟩
  | .folder true entries => by
    intro h
    rcases mem_sights_folder_iff.mp h with ⟨cause, _, rfl⟩ | h
    · exact ⟨[], by simp [Sight.names]⟩
    · obtain ⟨name, more, _, hnames⟩ := prefix_of_mem_sightsIn entries h
      exact ⟨name :: more, hnames⟩
  | .lost cause => by simp [sights]

theorem prefix_of_mem_sightsIn {front : List String} {sight : Sight} :
    (entries : List (String × DiskEntry)) → sight ∈ sightsIn skipped front entries →
      ∃ name more, (∃ e, (name, e) ∈ entries) ∧ sight.names = front ++ name :: more
  | [] => by simp [sightsIn]
  | (name, e) :: rest => by
    intro h
    rw [sightsIn] at h
    rcases List.mem_append.mp h with h | h
    · split at h
      next => simp at h
      next =>
        obtain ⟨more, hnames⟩ := prefix_of_mem_sights e h
        exact ⟨name, more, ⟨e, List.mem_cons_self⟩, by simp [hnames]⟩
    · obtain ⟨other, more, ⟨inner, hmem⟩, hnames⟩ := prefix_of_mem_sightsIn rest h
      exact ⟨other, more, ⟨inner, List.mem_cons_of_mem _ hmem⟩, hnames⟩

end

mutual

/-- What a walk shows comes in the order of the names, compared one by one. -/
theorem sights_sorted {front : List String} : (e : DiskEntry) → e.Legal →
    (e.sights skipped front).Pairwise fun a b => a.names < b.names
  | .file readable content => by simp [sights]
  | .link target => by simp [sights]
  | .folder false entries => by simp [sights]
  | .folder true entries => by
    intro legal
    rw [sights, if_pos rfl, List.pairwise_append]
    refine ⟨?_, sightsIn_sorted entries legal, ?_⟩
    · cases breakOff? entries <;> simp
    · intro a ha b hb
      obtain ⟨cause, _, rfl⟩ := List.mem_map.mp ha
      obtain ⟨name, more, _, hnames⟩ := prefix_of_mem_sightsIn entries hb
      have hlt : front ++ [] < front ++ name :: more :=
        List.append_left_lt (List.nil_lt_cons name more)
      rwa [List.append_nil, ← hnames] at hlt
  | .lost cause => by simp [sights]

theorem sightsIn_sorted {front : List String} : (entries : List (String × DiskEntry)) →
    LegalIn entries → (sightsIn skipped front entries).Pairwise fun a b => a.names < b.names
  | [] => by simp [sightsIn]
  | (name, e) :: rest => by
    rintro ⟨_, hinner, hsorted, hrest⟩
    rw [sightsIn, List.pairwise_append]
    refine ⟨?_, sightsIn_sorted rest hrest, ?_⟩
    · split
      next => simp
      next => exact sights_sorted e hinner
    · intro a ha b hb
      split at ha
      next => simp at ha
      next =>
        obtain ⟨more, hmore⟩ := prefix_of_mem_sights e ha
        obtain ⟨other, others, ⟨inner, hmem⟩, hothers⟩ := prefix_of_mem_sightsIn rest hb
        rw [hmore, hothers, List.append_assoc]
        exact List.append_left_lt (List.cons_lt_cons_iff.mpr (.inl (hsorted _ hmem)))

end

/-- Only from a folder do names lead on. -/
theorem Leads.isFolder {e : DiskEntry} {names : List String} (h : Leads skipped e names)
    (hne : names ≠ []) : e.isFolder := by
  cases h with
  | file => exact absurd rfl hne
  | folder _ _ _ => rfl

theorem Leads.forall_names {P : String → Prop} {e : DiskEntry} {names : List String}
    (h : Leads skipped e names) (all : e.NamesAll P) : ∀ name ∈ names, P name := by
  induction h with
  | file => simp
  | folder hmem _ _ ih =>
    obtain ⟨hname, hinner⟩ := namesAll_of_mem all hmem
    intro name hn
    rcases List.mem_cons.mp hn with rfl | hn
    · exact hname
    · exact ih hinner name hn

/-- Names that lead somewhere are legal. -/
theorem Leads.legalName {e : DiskEntry} {names : List String} (h : Leads skipped e names)
    (legal : e.Legal) : ∀ name ∈ names, LegalName name := by
  induction h with
  | file => simp
  | folder hmem _ _ ih =>
    obtain ⟨hname, hinner⟩ := legal_of_mem legal hmem
    intro name hn
    rcases List.mem_cons.mp hn with rfl | hn
    · exact hname
    · exact ih hinner name hn

end DiskEntry

end ImportSurvey
