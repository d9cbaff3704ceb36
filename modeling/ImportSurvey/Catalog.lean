namespace ImportSurvey

/-- Values under distinct names, in increasing order of the names. -/
structure Catalog (α : Type) where
  entries : List (String × α)
  sorted : entries.Pairwise (fun a b => a.1 < b.1)

namespace Catalog

variable {α β : Type}

instance [DecidableEq α] : DecidableEq (Catalog α) := fun a b =>
  if h : a.entries = b.entries then isTrue (by cases a; cases b; cases h; rfl)
  else isFalse (fun hab => h (hab ▸ rfl))

theorem ext {a b : Catalog α} (h : a.entries = b.entries) : a = b := by
  cases a; cases b; cases h; rfl

theorem lt_of_not_lt_of_ne {a b : String} (h : ¬a < b) (hne : a ≠ b) : b < a := by
  by_cases hba : b < a
  · exact hba
  · exact absurd (String.le_antisymm (String.not_lt.mp hba) (String.not_lt.mp h)) hne

/-- Puts `change` of the value under `key`, if any, in its place. -/
def alterEntries (key : String) (change : Option α → α) : List (String × α) → List (String × α)
  | [] => [(key, change none)]
  | entry :: rest =>
    if key < entry.1 then (key, change none) :: entry :: rest
    else if key = entry.1 then (key, change (some entry.2)) :: rest
    else entry :: alterEntries key change rest

theorem mem_alterEntries {key : String} {change : Option α → α} {e : String × α}
    {entries : List (String × α)} (h : e ∈ alterEntries key change entries) :
    e.1 = key ∨ e ∈ entries := by
  induction entries with
  | nil => simp only [alterEntries, List.mem_singleton] at h; exact .inl (by rw [h])
  | cons entry rest ih =>
    simp only [alterEntries] at h
    split at h
    · rcases List.mem_cons.mp h with rfl | h
      · exact .inl rfl
      · exact .inr h
    · split at h
      · rcases List.mem_cons.mp h with rfl | h
        · exact .inl rfl
        · exact .inr (List.mem_cons_of_mem _ h)
      · rcases List.mem_cons.mp h with rfl | h
        · exact .inr List.mem_cons_self
        · exact (ih h).imp_right (List.mem_cons_of_mem _)

theorem sorted_alterEntries {key : String} {change : Option α → α} {entries : List (String × α)}
    (h : entries.Pairwise (fun a b => a.1 < b.1)) :
    (alterEntries key change entries).Pairwise (fun a b => a.1 < b.1) := by
  induction entries with
  | nil => exact List.pairwise_singleton _ _
  | cons entry rest ih =>
    obtain ⟨hhead, htail⟩ := List.pairwise_cons.mp h
    simp only [alterEntries]
    split
    · next hlt =>
      refine List.pairwise_cons.mpr ⟨fun e he => ?_, h⟩
      rcases List.mem_cons.mp he with rfl | he
      · exact hlt
      · exact String.lt_trans hlt (hhead e he)
    · next hlt =>
      split
      · next heq => exact List.pairwise_cons.mpr ⟨fun e he => by rw [heq]; exact hhead e he, htail⟩
      · next hne =>
        refine List.pairwise_cons.mpr ⟨fun e he => ?_, ih htail⟩
        rcases mem_alterEntries he with hk | he
        · rw [hk]; exact lt_of_not_lt_of_ne hlt hne
        · exact hhead e he

def empty : Catalog α := ⟨[], List.Pairwise.nil⟩

instance : Inhabited (Catalog α) := ⟨empty⟩

/-- Replaces the value under `key` by `change` of it, or enters `change none`. -/
def alter (c : Catalog α) (key : String) (change : Option α → α) : Catalog α :=
  ⟨alterEntries key change c.entries, sorted_alterEntries c.sorted⟩

/-- Enters a value; one that is there under the same name is replaced. -/
def insert (c : Catalog α) (key : String) (value : α) : Catalog α := c.alter key fun _ => value

/-- The catalog of a list of entries; of entries with one name the last counts. -/
def ofList (entries : List (String × α)) : Catalog α :=
  entries.foldl (fun c e => c.insert e.1 e.2) empty

def get? (c : Catalog α) (key : String) : Option α := c.entries.lookup key

def contains (c : Catalog α) (key : String) : Bool := c.entries.any (·.1 == key)

def keys (c : Catalog α) : List String := c.entries.map Prod.fst

def size (c : Catalog α) : Nat := c.entries.length

def isEmpty (c : Catalog α) : Bool := c.entries.isEmpty

/-- The entries whose names are kept. -/
def filterKeys (c : Catalog α) (keep : String → Bool) : Catalog α :=
  ⟨c.entries.filter fun e => keep e.1, c.sorted.sublist List.filter_sublist⟩

end Catalog

/-- A set of names, listed in order. -/
abbrev NameSet := Catalog Unit

namespace NameSet

def add (s : NameSet) (name : String) : NameSet := Catalog.insert s name ()

def ofNames (names : List String) : NameSet := names.foldl add Catalog.empty

def names (s : NameSet) : List String := Catalog.keys s

end NameSet

end ImportSurvey
