import ImportSurvey.Disk.Entry
import ImportSurvey.Proofs.PathJoin

namespace ImportSurvey.DiskEntry

/-- A name that an entry can have: it is a single segment, and it leads down. -/
def LegalName (name : String) : Prop := Path.Ordinary name ∧ '/' ∉ name.toList

instance : DecidablePred LegalName := fun _ => inferInstanceAs (Decidable (_ ∧ _))

mutual

/-- All names are allowed, and the entries of each folder are listed by name, each name once. -/
def Legal : DiskEntry → Prop
  | .file _ _ => True
  | .link _ => True
  | .folder _ entries => LegalIn entries
  | .lost _ => True

def LegalIn : List (String × DiskEntry) → Prop
  | [] => True
  | (name, e) :: rest => LegalName name ∧ e.Legal ∧ (∀ other ∈ rest, name < other.1) ∧ LegalIn rest

end

theorem lookup_of_legalIn {entries : List (String × DiskEntry)} {name : String} {e : DiskEntry}
    (legal : LegalIn entries) (h : (name, e) ∈ entries) : entries.lookup name = some e := by
  induction entries with
  | nil => simp at h
  | cons entry rest ih =>
    obtain ⟨first, inner⟩ := entry
    obtain ⟨_, _, hsorted, hrest⟩ := legal
    rw [List.lookup_cons]
    rcases List.mem_cons.mp h with hhead | htail
    · cases hhead
      simp
    · have hlt : first < name := hsorted _ htail
      have hne : name ≠ first := by
        rintro rfl
        exact String.lt_irrefl _ hlt
      rw [beq_false_of_ne hne]
      exact ih hrest htail

theorem legal_of_mem {entries : List (String × DiskEntry)} {name : String} {e : DiskEntry}
    (legal : LegalIn entries) (h : (name, e) ∈ entries) : LegalName name ∧ e.Legal := by
  induction entries with
  | nil => simp at h
  | cons entry rest ih =>
    obtain ⟨hname, hinner, _, hrest⟩ := legal
    rcases List.mem_cons.mp h with hhead | htail
    · cases hhead
      exact ⟨hname, hinner⟩
    · exact ih hrest htail

mutual

/-- All names in an entry, on every level below it, have a property. -/
def NamesAll (P : String → Prop) : DiskEntry → Prop
  | .file _ _ => True
  | .link _ => True
  | .folder _ entries => NamesAllIn P entries
  | .lost _ => True

def NamesAllIn (P : String → Prop) : List (String × DiskEntry) → Prop
  | [] => True
  | (name, e) :: rest => P name ∧ e.NamesAll P ∧ NamesAllIn P rest

end

theorem namesAll_of_mem {P : String → Prop} {entries : List (String × DiskEntry)} {name : String}
    {e : DiskEntry} (all : NamesAllIn P entries) (h : (name, e) ∈ entries) :
    P name ∧ e.NamesAll P := by
  induction entries with
  | nil => simp at h
  | cons entry rest ih =>
    obtain ⟨hname, hinner, hrest⟩ := all
    rcases List.mem_cons.mp h with hhead | htail
    · cases hhead
      exact ⟨hname, hinner⟩
    · exact ih hrest htail

theorem mem_of_lookup {entries : List (String × DiskEntry)} {name : String} {e : DiskEntry}
    (h : entries.lookup name = some e) : (name, e) ∈ entries := by
  obtain ⟨before, after, rfl, _⟩ := List.lookup_eq_some_iff.mp h
  simp

end ImportSurvey.DiskEntry
